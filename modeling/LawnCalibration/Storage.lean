import LawnCalibration.Entity.CalibrationLog
import LawnCalibration.Entity.Formulation
import LawnCalibration.Entity.LawnService
import LawnCalibration.Entity.MeasureUnit
import LawnCalibration.Store.Error

/-
Places where entities are kept.

An update and a deletion answer whether there was a row to change.  Logs are
loaded without their records, and deleted logs are never loaded or listed.
-/

set_option autoImplicit false

namespace LawnCalibration

open Calendar (Instant)

class Storage (σ : Type) where
  insertUnit (unit : MeasureUnit) (store : σ) : Except StoreError σ
  updateUnit (unit : MeasureUnit) (store : σ) : Except StoreError (Bool × σ)
  loadUnit (symbol : String) (store : σ) : Except StoreError (Option MeasureUnit)
  listUnits (store : σ) : Except StoreError (List MeasureUnit)
  insertFormulation (formulation : Formulation) (store : σ) : Except StoreError σ
  updateFormulation (formulation : Formulation) (store : σ) : Except StoreError (Bool × σ)
  loadFormulation (id : FormulationId) (store : σ) : Except StoreError (Option Formulation)
  listFormulations (store : σ) : Except StoreError (List Formulation)
  insertLawnService (service : LawnService) (store : σ) : Except StoreError σ
  updateLawnService (service : LawnService) (store : σ) : Except StoreError (Bool × σ)
  loadLawnService (id : LawnServiceId) (store : σ) : Except StoreError (Option LawnService)
  listLawnServices (store : σ) : Except StoreError (List LawnService)
  insertLog (log : CalibrationLog) (store : σ) : Except StoreError σ
  updateLog (log : CalibrationLog) (store : σ) : Except StoreError (Bool × σ)
  /-- marks a log as deleted at some instant and keeps its rows -/
  deleteLog (id : CalibrationLogId) (moment : Instant) (store : σ) : Except StoreError (Bool × σ)
  loadLog (id : CalibrationLogId) (store : σ) : Except StoreError (Option CalibrationLog)
  /-- the logs that a filter asks for, oldest first -/
  listLogs (filter : LogFilter) (store : σ) : Except StoreError (List CalibrationLog)
  insertRecord (record : CalibrationRecord) (store : σ) : Except StoreError σ
  updateRecord (record : CalibrationRecord) (store : σ) : Except StoreError (Bool × σ)
  deleteRecord (id : CalibrationRecordId) (store : σ) : Except StoreError (Bool × σ)
  loadRecord (id : CalibrationRecordId) (store : σ) :
    Except StoreError (Option CalibrationRecord)
  /-- the records of one log, oldest first -/
  loadRecords (log : CalibrationLogId) (store : σ) : Except StoreError (List CalibrationRecord)
  /-- the records of live logs that a filter asks for, oldest first -/
  listRecords (filter : RecordFilter) (store : σ) : Except StoreError (List CalibrationRecord)

end LawnCalibration
