import LawnCalibration.Run
import LawnCalibration.Storage

/-
The requests that a storage answers, as values.

A request that fails leaves the storage as it was.
-/

set_option autoImplicit false

namespace LawnCalibration.Storage

open Calendar (Instant)

inductive Request where
  | insertUnit (unit : MeasureUnit)
  | updateUnit (unit : MeasureUnit)
  | loadUnit (symbol : String)
  | listUnits
  | insertFormulation (formulation : Formulation)
  | updateFormulation (formulation : Formulation)
  | loadFormulation (id : FormulationId)
  | listFormulations
  | insertLawnService (service : LawnService)
  | updateLawnService (service : LawnService)
  | loadLawnService (id : LawnServiceId)
  | listLawnServices
  | insertLog (log : CalibrationLog)
  | updateLog (log : CalibrationLog)
  | deleteLog (id : CalibrationLogId) (moment : Instant)
  | loadLog (id : CalibrationLogId)
  | listLogs (filter : LogFilter)
  | insertRecord (record : CalibrationRecord)
  | updateRecord (record : CalibrationRecord)
  | deleteRecord (id : CalibrationRecordId)
  | loadRecord (id : CalibrationRecordId)
  | loadRecords (log : CalibrationLogId)
  | listRecords (filter : RecordFilter)
deriving DecidableEq

inductive Answer where
  | done
  /-- whether there was a row to change -/
  | changed (found : Bool)
  | unit (found : Option MeasureUnit)
  | units (found : List MeasureUnit)
  | formulation (found : Option Formulation)
  | formulations (found : List Formulation)
  | lawnService (found : Option LawnService)
  | lawnServices (found : List LawnService)
  | log (found : Option CalibrationLog)
  | logs (found : List CalibrationLog)
  | record (found : Option CalibrationRecord)
  | records (found : List CalibrationRecord)
deriving DecidableEq

variable {σ α : Type}

def look (encode : α → Answer) (store : σ) (outcome : Except StoreError α) :
    Except StoreError Answer × σ :=
  (outcome.map encode, store)

def insertion (store : σ) : Except StoreError σ → Except StoreError Answer × σ
  | .ok after => (.ok .done, after)
  | .error error => (.error error, store)

def alteration (store : σ) : Except StoreError (Bool × σ) → Except StoreError Answer × σ
  | .ok (found, after) => (.ok (.changed found), after)
  | .error error => (.error error, store)

def Request.perform [Storage σ] (request : Request) (store : σ) :
    Except StoreError Answer × σ :=
  match request with
  | .insertUnit unit => insertion store (Storage.insertUnit unit store)
  | .updateUnit unit => alteration store (Storage.updateUnit unit store)
  | .loadUnit symbol => look .unit store (Storage.loadUnit symbol store)
  | .listUnits => look .units store (Storage.listUnits store)
  | .insertFormulation formulation =>
      insertion store (Storage.insertFormulation formulation store)
  | .updateFormulation formulation =>
      alteration store (Storage.updateFormulation formulation store)
  | .loadFormulation id => look .formulation store (Storage.loadFormulation id store)
  | .listFormulations => look .formulations store (Storage.listFormulations store)
  | .insertLawnService service => insertion store (Storage.insertLawnService service store)
  | .updateLawnService service => alteration store (Storage.updateLawnService service store)
  | .loadLawnService id => look .lawnService store (Storage.loadLawnService id store)
  | .listLawnServices => look .lawnServices store (Storage.listLawnServices store)
  | .insertLog log => insertion store (Storage.insertLog log store)
  | .updateLog log => alteration store (Storage.updateLog log store)
  | .deleteLog id moment => alteration store (Storage.deleteLog id moment store)
  | .loadLog id => look .log store (Storage.loadLog id store)
  | .listLogs filter => look .logs store (Storage.listLogs filter store)
  | .insertRecord record => insertion store (Storage.insertRecord record store)
  | .updateRecord record => alteration store (Storage.updateRecord record store)
  | .deleteRecord id => alteration store (Storage.deleteRecord id store)
  | .loadRecord id => look .record store (Storage.loadRecord id store)
  | .loadRecords log => look .records store (Storage.loadRecords log store)
  | .listRecords filter => look .records store (Storage.listRecords filter store)

def performAll [Storage σ] (requests : List Request) (store : σ) : σ :=
  Run.final Request.perform requests store

end LawnCalibration.Storage
