import LawnCalibration.Formula.Evaluation
import LawnCalibration.Schema.Migration
import LawnCalibration.Service.Error
import LawnCalibration.Store.Database

/-
Starting the service by its settings.
-/

set_option autoImplicit false

namespace LawnCalibration.Service

structure Running where
  budget : Formula.Budget
  schema : Schema.Catalog
  database : Store.Database

def start (settings : Settings) (around : Files.Surroundings) : Except ServiceError Running :=
  match settings.validate with
  | .error error => .error (.settings error)
  | .ok _ =>
      match Store.Location.connect around settings.databasePath with
      | .error refusal => .error (.store (.database (.opening refusal)))
      | .ok _ =>
          match Schema.ensure .empty with
          | (.error error, _) => .error (.store error)
          | (.ok _, schema) =>
              .ok {
                budget := { milliseconds := settings.evaluationTimeout }
                schema
                database := .empty }

end LawnCalibration.Service
