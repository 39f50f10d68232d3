import LawnCalibration.Proofs.Calendar.DateText
import LawnCalibration.Proofs.Calendar.Spelling
import LawnCalibration.Proofs.Calibration.Locality
import LawnCalibration.Proofs.Formula.Equality
import LawnCalibration.Proofs.Formula.Names
import LawnCalibration.Proofs.Formula.Positions
import LawnCalibration.Proofs.Formula.Shortcuts
import LawnCalibration.Proofs.Formula.Typing
import LawnCalibration.Proofs.Formula.Work
import LawnCalibration.Proofs.Predicate.Naming
import LawnCalibration.Proofs.Schema.Upgrade
import LawnCalibration.Proofs.Service.Conflicts
import LawnCalibration.Proofs.Service.Documents
import LawnCalibration.Proofs.Service.Failures
import LawnCalibration.Proofs.Service.RecordQueries
import LawnCalibration.Proofs.Settings.Precedence
import LawnCalibration.Proofs.Store.LogDeletion
import LawnCalibration.Proofs.Store.Questions
import LawnCalibration.Schema.Edit
import LawnCalibration.Service.Call
import LawnCalibration.Service.Start
import LawnCalibration.Settings.Text
import LawnCalibration.Storage.Contended
import LawnCalibration.Storage.Request
import LawnCalibration.Store.Direct
