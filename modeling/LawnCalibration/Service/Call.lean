import LawnCalibration.Service.Logs

/-
The calls that the service answers, as values.

Every call is made at some instant and is given bits for the identifier of the
entity that it may create.
-/

set_option autoImplicit false

namespace LawnCalibration.Service

open Calendar (Instant)
open Formula (Budget)

inductive Call where
  | createUnit (draft : UnitDraft)
  | readUnits
  | updateUnit (symbol : String) (patch : UnitPatch)
  | createFormulation (draft : FormulationDraft)
  | readFormulations
  | updateFormulation (id : FormulationId) (patch : FormulationPatch)
  | createLawnService (draft : LawnServiceDraft)
  | readLawnServices
  | readLawnService (id : LawnServiceId)
  | updateLawnService (id : LawnServiceId) (patch : LawnServicePatch)
  | createLog (draft : LogDraft) (user : UserId)
  | readLog (id : CalibrationLogId)
  | readLogs (filter : LogFilter)
  | updateLog (id : CalibrationLogId) (patch : LogPatch)
  | deleteLog (id : CalibrationLogId)
  | createRecord (log : CalibrationLogId) (draft : RecordDraft)
  | readRecords (filter : RecordFilter)
  | updateRecord (id : CalibrationRecordId) (patch : RecordPatch)
  | deleteRecord (id : CalibrationRecordId)
deriving DecidableEq

inductive Answer where
  | done
  | unit (value : MeasureUnit)
  | units (values : List MeasureUnit)
  | formulation (value : Formulation)
  | formulations (values : List Formulation)
  | lawnService (value : LawnService)
  | lawnServices (values : List LawnService)
  | log (value : CalibrationLog)
  | logs (values : List CalibrationLog)
  | record (value : CalibrationRecord)
  | records (values : List CalibrationRecord)
deriving DecidableEq

structure Circumstance where
  now : Instant
  freshBits : BitVec 128
deriving DecidableEq

variable {σ : Type} [Storage σ]

def Call.action (call : Call) (budget : Budget) (around : Circumstance) : Action σ Answer :=
  match call with
  | .createUnit draft => .unit <$> Service.createUnit draft around.now
  | .readUnits => .units <$> Service.readUnits
  | .updateUnit symbol patch => .unit <$> Service.updateUnit symbol patch around.now
  | .createFormulation draft =>
      .formulation <$> Service.createFormulation draft ⟨around.freshBits⟩ around.now
  | .readFormulations => .formulations <$> Service.readFormulations
  | .updateFormulation id patch =>
      .formulation <$> Service.updateFormulation id patch around.now
  | .createLawnService draft =>
      .lawnService <$> Service.createLawnService draft ⟨around.freshBits⟩ around.now
  | .readLawnServices => .lawnServices <$> Service.readLawnServices
  | .readLawnService id => .lawnService <$> Service.readLawnService id
  | .updateLawnService id patch =>
      .lawnService <$> Service.updateLawnService id patch around.now
  | .createLog draft user =>
      .log <$> Service.createLog draft user ⟨around.freshBits⟩ around.now
  | .readLog id => .log <$> Service.readLog budget id
  | .readLogs filter => .logs <$> Service.readLogs budget filter
  | .updateLog id patch => .log <$> Service.updateLog budget id patch around.now
  | .deleteLog id => (fun _ => .done) <$> Service.deleteLog id around.now
  | .createRecord log draft =>
      .record <$> Service.createRecord log draft ⟨around.freshBits⟩ around.now
  | .readRecords filter => .records <$> Service.readRecords filter
  | .updateRecord id patch => .record <$> Service.updateRecord id patch around.now
  | .deleteRecord id => (fun _ => .done) <$> Service.deleteRecord id

def Call.perform (call : Call) (budget : Budget) (around : Circumstance) (store : σ) :
    Except ServiceError Answer × σ :=
  (call.action budget around).run.run store

end LawnCalibration.Service
