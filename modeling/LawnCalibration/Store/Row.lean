import LawnCalibration.Entity.CalibrationLog
import LawnCalibration.Entity.Formulation
import LawnCalibration.Entity.LawnService
import LawnCalibration.Entity.MeasureUnit
import LawnCalibration.Store.Cell
import LawnCalibration.Store.Error

/-
Rows of the tables, and the entities they hold.

Every row has a number of its own beside its columns.
Identifiers and instants are stored as text, instants in their storage form.  A
column of text holds text whatever is put into it; only the columns of numbers
can hold a value of another type.  A row is read column by column: first the
types of all its numbers, then its identifiers and times in the order of the
columns.
-/

set_option autoImplicit false

namespace LawnCalibration.Store

open Calendar (Instant)

/-- A column of a table: how its value is stored, found and replaced. -/
structure Column (ρ : Type) where
  name : String
  affinity : Affinity
  nullable : Bool
  unique : Bool
  get : ρ → Cell
  set : ρ → Cell → ρ

variable {ρ : Type}

def Column.ofText (name : String) (get : ρ → String) (set : ρ → String → ρ) : Column ρ where
  name := name
  affinity := .text
  nullable := false
  unique := false
  get row := .text (get row)
  set row
    | .text value => set row value
    | _ => row

/-- A column of text in which no two rows agree. -/
def Column.ofKey (name : String) (get : ρ → String) (set : ρ → String → ρ) : Column ρ :=
  { Column.ofText name get set with unique := true }

def Column.ofNumber (name : String) (affinity : Affinity) (get : ρ → Cell)
    (set : ρ → Cell → ρ) : Column ρ where
  name := name
  affinity := affinity
  nullable := false
  unique := false
  get := get
  set := set

/-- A name without its ASCII case. -/
def folded (name : String) : List Char :=
  name.toList.map Text.asciiLowered

def findColumn (columns : List (Column ρ)) (name : String) : Option (Column ρ) :=
  columns.find? fun column => folded column.name == folded name

def columnsOf (columns : List (Column ρ)) (row : ρ) : Columns := fun name =>
  (findColumn columns name).map fun column => (column.affinity, column.get row)

/-! ### Reading columns -/

def Cell.type : Cell → CellType
  | .null => .null
  | .integer _ => .integer
  | .real _ => .real
  | .text _ => .text

def readReal (index : Nat) (column : String) : Cell → Except StoreError Float
  | .real value => .ok value
  | .integer value => .ok (Float.ofInt value)
  | cell => .error (.database (.columnType cell.type index column))

def readWord32 (index : Nat) (column : String) : Cell → Except StoreError UInt32
  | .integer value =>
      if 0 ≤ value ∧ value < Int.pow 2 32 then .ok (UInt32.ofNat value.toNat)
      else .error (.database (.integerRange value index))
  | cell => .error (.database (.columnType cell.type index column))

def readIdentifier {kind : Kind} (column value : String) : Except StoreError (Identifier kind) :=
  match Identifier.read value with
  | .ok id => .ok id
  | .error error => .error (.corrupt column value (.identifier error))

def readInstant (column value : String) : Except StoreError Instant :=
  match Calendar.Timestamp.read value with
  | .ok instant => .ok instant
  | .error error => .error (.corrupt column value (.timestamp error))

def readInstant? (column : String) : Option String → Except StoreError (Option Instant)
  | none => .ok none
  | some value => (readInstant column value).map some

def instantText (instant : Instant) : String :=
  Calendar.Timestamp.text instant

structure UnitRow where
  number : Int
  symbol : String
  name : String
  createdAt : String
  updatedAt : String
deriving DecidableEq

namespace UnitRow

def ofUnit (number : Int) (unit : MeasureUnit) : UnitRow where
  number := number
  symbol := unit.symbol
  name := unit.name
  createdAt := instantText unit.createdAt
  updatedAt := instantText unit.updatedAt

def toUnit (row : UnitRow) : Except StoreError MeasureUnit := do
  let createdAt ← readInstant "units.created_at" row.createdAt
  let updatedAt ← readInstant "units.updated_at" row.updatedAt
  return { symbol := row.symbol, name := row.name, createdAt, updatedAt }

def columns : List (Column UnitRow) := [
  .ofKey "symbol" symbol fun row value => { row with symbol := value },
  .ofText "name" name fun row value => { row with name := value },
  .ofText "created_at" createdAt fun row value => { row with createdAt := value },
  .ofText "updated_at" updatedAt fun row value => { row with updatedAt := value }]

end UnitRow

structure FormulationRow where
  number : Int
  id : String
  name : String
  createdAt : String
  updatedAt : String
deriving DecidableEq

namespace FormulationRow

def ofFormulation (number : Int) (formulation : Formulation) : FormulationRow where
  number := number
  id := formulation.id.text
  name := formulation.name
  createdAt := instantText formulation.createdAt
  updatedAt := instantText formulation.updatedAt

def toFormulation (row : FormulationRow) : Except StoreError Formulation := do
  let id ← readIdentifier "formulations.id" row.id
  let createdAt ← readInstant "formulations.created_at" row.createdAt
  let updatedAt ← readInstant "formulations.updated_at" row.updatedAt
  return { id, name := row.name, createdAt, updatedAt }

def columns : List (Column FormulationRow) := [
  .ofKey "id" id fun row value => { row with id := value },
  .ofKey "name" name fun row value => { row with name := value },
  .ofText "created_at" createdAt fun row value => { row with createdAt := value },
  .ofText "updated_at" updatedAt fun row value => { row with updatedAt := value }]

end FormulationRow

structure LawnServiceRow where
  number : Int
  id : String
  code : String
  description : String
  formulationId : String
  targetCalibrationValue : Cell
  targetCalibrationUnit : String
  measurementUnit : String
  calibrationFunction : String
  differentialCalibrationFunction : String
  createdAt : String
  updatedAt : String
deriving DecidableEq

namespace LawnServiceRow

def ofLawnService (number : Int) (service : LawnService) : LawnServiceRow where
  number := number
  id := service.id.text
  code := service.code
  description := service.description
  formulationId := service.formulationId.text
  targetCalibrationValue := storedReal service.targetCalibrationValue
  targetCalibrationUnit := service.targetCalibrationUnit
  measurementUnit := service.measurementUnit
  calibrationFunction := service.calibrationFunction
  differentialCalibrationFunction := service.differentialCalibrationFunction
  createdAt := instantText service.createdAt
  updatedAt := instantText service.updatedAt

def toLawnService (row : LawnServiceRow) : Except StoreError LawnService := do
  let targetCalibrationValue ←
    readReal 4 "target_calibration_value" row.targetCalibrationValue
  let id ← readIdentifier "lawn_services.id" row.id
  let formulationId ← readIdentifier "lawn_services.formulation_id" row.formulationId
  let createdAt ← readInstant "lawn_services.created_at" row.createdAt
  let updatedAt ← readInstant "lawn_services.updated_at" row.updatedAt
  return {
    id
    code := row.code
    description := row.description
    formulationId
    targetCalibrationValue
    targetCalibrationUnit := row.targetCalibrationUnit
    measurementUnit := row.measurementUnit
    calibrationFunction := row.calibrationFunction
    differentialCalibrationFunction := row.differentialCalibrationFunction
    createdAt
    updatedAt }

def columns : List (Column LawnServiceRow) := [
  .ofKey "id" id fun row value => { row with id := value },
  .ofKey "code" code fun row value => { row with code := value },
  .ofText "description" description fun row value => { row with description := value },
  .ofText "formulation_id" formulationId fun row value => { row with formulationId := value },
  .ofNumber "target_calibration_value" .real targetCalibrationValue fun row value =>
    { row with targetCalibrationValue := value },
  .ofText "target_calibration_unit" targetCalibrationUnit fun row value =>
    { row with targetCalibrationUnit := value },
  .ofText "measurement_unit" measurementUnit fun row value =>
    { row with measurementUnit := value },
  .ofText "calibration_function" calibrationFunction fun row value =>
    { row with calibrationFunction := value },
  .ofText "differential_calibration_function" differentialCalibrationFunction fun row value =>
    { row with differentialCalibrationFunction := value },
  .ofText "created_at" createdAt fun row value => { row with createdAt := value },
  .ofText "updated_at" updatedAt fun row value => { row with updatedAt := value }]

end LawnServiceRow

structure LogRow where
  number : Int
  id : String
  userId : String
  lawnServiceId : String
  createdAt : String
  updatedAt : String
  deletedAt : Option String
deriving DecidableEq

namespace LogRow

def ofLog (number : Int) (log : CalibrationLog) : LogRow where
  number := number
  id := log.id.text
  userId := log.userId.text
  lawnServiceId := log.lawnServiceId.text
  createdAt := instantText log.createdAt
  updatedAt := instantText log.updatedAt
  deletedAt := log.deletedAt.map instantText

def toLog (row : LogRow) : Except StoreError CalibrationLog := do
  let id ← readIdentifier "calibration_logs.id" row.id
  let userId ← readIdentifier "calibration_logs.user_id" row.userId
  let lawnServiceId ← readIdentifier "calibration_logs.lawn_service_id" row.lawnServiceId
  let createdAt ← readInstant "calibration_logs.created_at" row.createdAt
  let updatedAt ← readInstant "calibration_logs.updated_at" row.updatedAt
  let deletedAt ← readInstant? "calibration_logs.deleted_at" row.deletedAt
  return {
    id, userId, lawnServiceId, createdAt, updatedAt, deletedAt
    currentCalibration := none
    records := [] }

def deletedColumn : Column LogRow where
  name := "deleted_at"
  affinity := .text
  nullable := true
  unique := false
  get row := (row.deletedAt.map Cell.text).getD .null
  set row
    | .text value => { row with deletedAt := some value }
    | _ => { row with deletedAt := none }

def columns : List (Column LogRow) := [
  .ofKey "id" id fun row value => { row with id := value },
  .ofText "user_id" userId fun row value => { row with userId := value },
  .ofText "lawn_service_id" lawnServiceId fun row value => { row with lawnServiceId := value },
  .ofText "created_at" createdAt fun row value => { row with createdAt := value },
  .ofText "updated_at" updatedAt fun row value => { row with updatedAt := value },
  deletedColumn]

def isLive (row : LogRow) : Bool :=
  row.deletedAt.isNone

end LogRow

structure RecordRow where
  number : Int
  id : String
  calibrationLogId : String
  measurementValue : Cell
  measurementUnit : String
  measurementArea : Cell
  createdAt : String
  updatedAt : String
deriving DecidableEq

namespace RecordRow

def ofRecord (number : Int) (record : CalibrationRecord) : RecordRow where
  number := number
  id := record.id.text
  calibrationLogId := record.calibrationLogId.text
  measurementValue := storedReal record.measurementValue
  measurementUnit := record.measurementUnit
  measurementArea := .integer record.measurementArea.toNat
  createdAt := instantText record.createdAt
  updatedAt := instantText record.updatedAt

def toRecord (row : RecordRow) : Except StoreError CalibrationRecord := do
  let measurementValue ← readReal 2 "measurement_value" row.measurementValue
  let measurementArea ← readWord32 4 "measurement_area" row.measurementArea
  let id ← readIdentifier "calibration_records.id" row.id
  let calibrationLogId ←
    readIdentifier "calibration_records.calibration_log_id" row.calibrationLogId
  let createdAt ← readInstant "calibration_records.created_at" row.createdAt
  let updatedAt ← readInstant "calibration_records.updated_at" row.updatedAt
  return {
    id
    calibrationLogId
    measurementValue
    measurementUnit := row.measurementUnit
    measurementArea
    createdAt
    updatedAt
    calibration := 0.0 }

def columns : List (Column RecordRow) := [
  .ofKey "id" id fun row value => { row with id := value },
  .ofText "calibration_log_id" calibrationLogId fun row value =>
    { row with calibrationLogId := value },
  .ofNumber "measurement_value" .real measurementValue fun row value =>
    { row with measurementValue := value },
  .ofText "measurement_unit" measurementUnit fun row value =>
    { row with measurementUnit := value },
  .ofNumber "measurement_area" .integer measurementArea fun row value =>
    { row with measurementArea := value },
  .ofText "created_at" createdAt fun row value => { row with createdAt := value },
  .ofText "updated_at" updatedAt fun row value => { row with updatedAt := value }]

/-- The rule that an area is not negative; any text stands above every number. -/
def hasArea (area : Cell) : Bool :=
  match area.order? (.integer 0) with
  | some order => order != .lt
  | none => true

end RecordRow
end LawnCalibration.Store
