import LawnCalibration.Predicate.Filters
import LawnCalibration.Storage
import LawnCalibration.Store.Row
import LawnCalibration.Store.Table

/-
The database: one table for every kind of entity.

A write checks first that no required number is missing, then that names, codes
and keys are unique, and last that the row it refers to exists.  A write that is
refused changes nothing.  An update that finds no row checks nothing, and it
never touches the time of creation.
-/

set_option autoImplicit false

namespace LawnCalibration.Store

open Calendar (Instant)

structure Database where
  units : List UnitRow
  formulations : List FormulationRow
  lawnServices : List LawnServiceRow
  logs : List LogRow
  records : List RecordRow
deriving DecidableEq

namespace Database

def empty : Database :=
  { units := [], formulations := [], lawnServices := [], logs := [], records := [] }

def insertUnit (unit : MeasureUnit) (db : Database) : Except StoreError Database := do
  demand .unit (.unique "units.symbol") (!holds UnitRow.symbol unit.symbol db.units)
  return { db with units := db.units ++ [.ofUnit (nextNumber UnitRow.number db.units) unit] }

def updateUnit (unit : MeasureUnit) (db : Database) : Except StoreError (Bool × Database) :=
  if holds UnitRow.symbol unit.symbol db.units then
    .ok (true, { db with
      units := changeRows (fun row => row.symbol == unit.symbol)
        (fun row => { UnitRow.ofUnit row.number unit with createdAt := row.createdAt }) db.units })
  else .ok (false, db)

def loadUnit (symbol : String) (db : Database) : Except StoreError (Option MeasureUnit) :=
  decodeRow UnitRow.toUnit (findRow UnitRow.symbol symbol db.units)

def listUnits (db : Database) : Except StoreError (List MeasureUnit) :=
  (sortedBy UnitRow.symbol db.units).mapM UnitRow.toUnit

def insertFormulation (formulation : Formulation) (db : Database) :
    Except StoreError Database := do
  demand .formulation (.unique "formulations.name")
    (!holds FormulationRow.name formulation.name db.formulations)
  demand .formulation (.unique "formulations.id")
    (!holds FormulationRow.id formulation.id.text db.formulations)
  let number := nextNumber FormulationRow.number db.formulations
  return { db with formulations := db.formulations ++ [.ofFormulation number formulation] }

def updateFormulation (formulation : Formulation) (db : Database) :
    Except StoreError (Bool × Database) :=
  if holds FormulationRow.id formulation.id.text db.formulations then do
    demand .formulation (.unique "formulations.name")
      (!db.formulations.any fun row =>
        row.name == formulation.name && row.id != formulation.id.text)
    return (true, { db with
      formulations := changeRows (fun row => row.id == formulation.id.text)
        (fun row => { FormulationRow.ofFormulation row.number formulation with
          createdAt := row.createdAt }) db.formulations })
  else .ok (false, db)

def loadFormulation (id : FormulationId) (db : Database) :
    Except StoreError (Option Formulation) :=
  decodeRow FormulationRow.toFormulation (findRow FormulationRow.id id.text db.formulations)

def listFormulations (db : Database) : Except StoreError (List Formulation) :=
  (sortedBy FormulationRow.name db.formulations).mapM FormulationRow.toFormulation

/-- What every written lawn service has to meet, its uniqueness aside. -/
def demandTarget (service : LawnService) : Except StoreError Unit :=
  demand .lawnService (.notNull "lawn_services.target_calibration_value")
    (storedReal service.targetCalibrationValue != .null)

def demandFormulation (service : LawnService) (db : Database) : Except StoreError Unit :=
  demand .lawnService .foreignKey
    (holds FormulationRow.id service.formulationId.text db.formulations)

def insertLawnService (service : LawnService) (db : Database) : Except StoreError Database := do
  demandTarget service
  demand .lawnService (.unique "lawn_services.code")
    (!holds LawnServiceRow.code service.code db.lawnServices)
  demand .lawnService (.unique "lawn_services.id")
    (!holds LawnServiceRow.id service.id.text db.lawnServices)
  demandFormulation service db
  let number := nextNumber LawnServiceRow.number db.lawnServices
  return { db with lawnServices := db.lawnServices ++ [.ofLawnService number service] }

def updateLawnService (service : LawnService) (db : Database) :
    Except StoreError (Bool × Database) :=
  if holds LawnServiceRow.id service.id.text db.lawnServices then do
    demandTarget service
    demand .lawnService (.unique "lawn_services.code")
      (!db.lawnServices.any fun row => row.code == service.code && row.id != service.id.text)
    demandFormulation service db
    return (true, { db with
      lawnServices := changeRows (fun row => row.id == service.id.text)
        (fun row => { LawnServiceRow.ofLawnService row.number service with
          createdAt := row.createdAt }) db.lawnServices })
  else .ok (false, db)

def loadLawnService (id : LawnServiceId) (db : Database) :
    Except StoreError (Option LawnService) :=
  decodeRow LawnServiceRow.toLawnService (findRow LawnServiceRow.id id.text db.lawnServices)

def listLawnServices (db : Database) : Except StoreError (List LawnService) :=
  (sortedBy LawnServiceRow.code db.lawnServices).mapM LawnServiceRow.toLawnService

def demandLawnService (log : CalibrationLog) (db : Database) : Except StoreError Unit :=
  demand .calibrationLog .foreignKey
    (holds LawnServiceRow.id log.lawnServiceId.text db.lawnServices)

def isLiveLog (id : String) (row : LogRow) : Bool :=
  row.id == id && row.isLive

def insertLog (log : CalibrationLog) (db : Database) : Except StoreError Database := do
  demand .calibrationLog (.unique "calibration_logs.id") (!holds LogRow.id log.id.text db.logs)
  demandLawnService log db
  return { db with logs := db.logs ++ [.ofLog (nextNumber LogRow.number db.logs) log] }

def updateLog (log : CalibrationLog) (db : Database) : Except StoreError (Bool × Database) :=
  if db.logs.any (isLiveLog log.id.text) then do
    demandLawnService log db
    return (true, { db with
      logs := changeRows (isLiveLog log.id.text)
        (fun row => { row with
          userId := log.userId.text
          lawnServiceId := log.lawnServiceId.text
          updatedAt := instantText log.updatedAt }) db.logs })
  else .ok (false, db)

def deleteLog (id : CalibrationLogId) (moment : Instant) (db : Database) :
    Except StoreError (Bool × Database) :=
  .ok (db.logs.any (isLiveLog id.text), { db with
    logs := changeRows (isLiveLog id.text)
      (fun row => { row with
        updatedAt := instantText moment
        deletedAt := some (instantText moment) }) db.logs })

def loadLog (id : CalibrationLogId) (db : Database) :
    Except StoreError (Option CalibrationLog) :=
  decodeRow LogRow.toLog (db.logs.find? (isLiveLog id.text))

def listLogs (filter : LogFilter) (db : Database) : Except StoreError (List CalibrationLog) :=
  let chosen := db.logs.filter fun row =>
    row.isLive && selects filter.predicate (columnsOf LogRow.columns row)
  (sortedNumbered LogRow.createdAt LogRow.number chosen).mapM LogRow.toLog

/-- What every written record has to meet, its uniqueness aside.  An area is never negative. -/
def demandMeasurement (record : CalibrationRecord) : Except StoreError Unit :=
  demand .calibrationRecord (.notNull "calibration_records.measurement_value")
    (storedReal record.measurementValue != .null)

/-- A record belongs to a log, deleted or not. -/
def demandLog (record : CalibrationRecord) (db : Database) : Except StoreError Unit :=
  demand .calibrationRecord .foreignKey (holds LogRow.id record.calibrationLogId.text db.logs)

def insertRecord (record : CalibrationRecord) (db : Database) :
    Except StoreError Database := do
  demandMeasurement record
  demand .calibrationRecord (.unique "calibration_records.id")
    (!holds RecordRow.id record.id.text db.records)
  demandLog record db
  let number := nextNumber RecordRow.number db.records
  return { db with records := db.records ++ [.ofRecord number record] }

def updateRecord (record : CalibrationRecord) (db : Database) :
    Except StoreError (Bool × Database) :=
  if holds RecordRow.id record.id.text db.records then do
    demandMeasurement record
    demandLog record db
    return (true, { db with
      records := changeRows (fun row => row.id == record.id.text)
        (fun row => { RecordRow.ofRecord row.number record with
          createdAt := row.createdAt }) db.records })
  else .ok (false, db)

def deleteRecord (id : CalibrationRecordId) (db : Database) :
    Except StoreError (Bool × Database) :=
  .ok (holds RecordRow.id id.text db.records,
    { db with records := db.records.filter fun row => row.id != id.text })

def loadRecord (id : CalibrationRecordId) (db : Database) :
    Except StoreError (Option CalibrationRecord) :=
  decodeRow RecordRow.toRecord (findRow RecordRow.id id.text db.records)

def loadRecords (log : CalibrationLogId) (db : Database) :
    Except StoreError (List CalibrationRecord) :=
  let chosen := db.records.filter fun row => row.calibrationLogId == log.text
  (sortedNumbered RecordRow.createdAt RecordRow.number chosen).mapM RecordRow.toRecord

def listRecords (filter : RecordFilter) (db : Database) :
    Except StoreError (List CalibrationRecord) :=
  let chosen := db.records.filter fun row =>
    db.logs.any (isLiveLog row.calibrationLogId) &&
      selects filter.predicate (columnsOf RecordRow.columns row)
  (sortedNumbered RecordRow.createdAt RecordRow.number chosen).mapM RecordRow.toRecord

/-! ### The database as a storage -/

instance : Storage Database where
  insertUnit := insertUnit
  updateUnit := updateUnit
  loadUnit := loadUnit
  listUnits := listUnits
  insertFormulation := insertFormulation
  updateFormulation := updateFormulation
  loadFormulation := loadFormulation
  listFormulations := listFormulations
  insertLawnService := insertLawnService
  updateLawnService := updateLawnService
  loadLawnService := loadLawnService
  listLawnServices := listLawnServices
  insertLog := insertLog
  updateLog := updateLog
  deleteLog := deleteLog
  loadLog := loadLog
  listLogs := listLogs
  insertRecord := insertRecord
  updateRecord := updateRecord
  deleteRecord := deleteRecord
  loadRecord := loadRecord
  loadRecords := loadRecords
  listRecords := listRecords

end Database
end LawnCalibration.Store
