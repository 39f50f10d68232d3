import LawnCalibration.Calibration.Engine
import LawnCalibration.Service.Catalogue

/-
Calibration logs and their records as the service handles them.

A log that is read carries its records in the order of creation and the
calibrations that the formulas of its lawn service give.
-/

set_option autoImplicit false

namespace LawnCalibration.Service

open Calendar (Instant)
open Formula (Budget)
open Service.Action

variable {σ : Type} [Storage σ]

/-- The lawn services that were looked up before, those not found included. -/
abbrev Known : Type :=
  List (LawnServiceId × Option LawnService)

/-- A lawn service from those that are known, or else from the storage. -/
def lookUp (id : LawnServiceId) (known : Known) :
    Action σ (Option LawnService × Known) := do
  match known.lookup id with
  | some service => return (service, known)
  | none =>
      let service ← query (Storage.loadLawnService id)
      return (service, (id, service) :: known)

def complete (budget : Budget) (log : CalibrationLog) (known : Known) :
    Action σ (CalibrationLog × Known) := do
  let records ← query (Storage.loadRecords log.id)
  let log := { log with records }
  let (service, known) ← lookUp log.lawnServiceId known
  match service with
  | some service => return (service.calibrate budget log, known)
  | none => return (log, known)

/-- Completes logs one after the other, looking up every lawn service once. -/
def completeAll (budget : Budget) :
    List CalibrationLog → Known → Action σ (List CalibrationLog)
  | [], _ => return []
  | log :: logs, known => do
      let (log, known) ← complete budget log known
      let logs ← completeAll budget logs known
      return log :: logs

def findLog (id : CalibrationLogId) : Action σ CalibrationLog :=
  load .calibrationLog id.text (Storage.loadLog id)

def createLog (draft : LogDraft) (user : UserId) (id : CalibrationLogId) (now : Instant) :
    Action σ CalibrationLog := do
  let _ ← readLawnService draft.lawnServiceId
  let log := draft.make id user now
  add (Storage.insertLog log)
  return log

def readLog (budget : Budget) (id : CalibrationLogId) : Action σ CalibrationLog := do
  let log ← findLog id
  let (log, _) ← complete budget log []
  return log

def readLogs (budget : Budget) (filter : LogFilter) : Action σ (List CalibrationLog) := do
  let logs ← query (Storage.listLogs filter)
  completeAll budget logs []

def updateLog (budget : Budget) (id : CalibrationLogId) (patch : LogPatch) (now : Instant) :
    Action σ CalibrationLog := do
  let log ← findLog id
  if let some service := patch.lawnServiceId then
    let _ ← readLawnService service
  let log := { patch.apply log with updatedAt := now }
  alter .calibrationLog id.text (Storage.updateLog log)
  let (log, _) ← complete budget log []
  return log

/-- Hides a log and its records; their rows are kept. -/
def deleteLog (id : CalibrationLogId) (now : Instant) : Action σ Unit :=
  alter .calibrationLog id.text (Storage.deleteLog id now)

def createRecord (log : CalibrationLogId) (draft : RecordDraft) (id : CalibrationRecordId)
    (now : Instant) : Action σ CalibrationRecord := do
  check draft.validate
  let _ ← findLog log
  let record := draft.make id log now
  add (Storage.insertRecord record)
  return record

def readRecords (filter : RecordFilter) : Action σ (List CalibrationRecord) :=
  query (Storage.listRecords filter)

def updateRecord (id : CalibrationRecordId) (patch : RecordPatch) (now : Instant) :
    Action σ CalibrationRecord := do
  let record ← load .calibrationRecord id.text (Storage.loadRecord id)
  if let some log := patch.calibrationLogId then
    let _ ← findLog log
  let record := patch.apply record
  check record.validate
  let record := { record with updatedAt := now }
  alter .calibrationRecord id.text (Storage.updateRecord record)
  return record

def deleteRecord (id : CalibrationRecordId) : Action σ Unit :=
  alter .calibrationRecord id.text (Storage.deleteRecord id)

end LawnCalibration.Service
