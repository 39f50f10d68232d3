import LawnCalibration.Store.Database
import LawnCalibration.Store.Statement

/-
Edits of single cells and rows that bypass the entities.

A cell takes the affinity of its column.  The number of a row is edited like a
cell under one of its three names; it has to be an integer.  Constraints of its
own table hold, but no other table is looked at: an edit may leave references
without their rows.
-/

set_option autoImplicit false

namespace LawnCalibration.Store

open Statement (TableReference Update Delete)

variable {ρ : Type}

structure TableShape (ρ : Type) where
  name : String
  columns : List (Column ρ)
  key : ρ → String
  number : ρ → Int
  renumber : ρ → Int → ρ
  rule? : ρ → Option Violation

def rowNumberNames : List String := ["rowid", "oid", "_rowid_"]

def isRowNumberName (name : String) : Bool :=
  rowNumberNames.contains (String.ofList (name.toList.map Text.asciiLowered))

namespace TableShape

def violation? (shape : TableShape ρ) (column : Column ρ) (key : String) (cell : Cell)
    (rows : List ρ) (changed : ρ) : Option Violation :=
  let label := shape.name ++ "." ++ column.name
  if cell = .null ∧ !column.nullable then some (.notNull label)
  else
    match shape.rule? changed with
    | some violation => some violation
    | none =>
        if column.unique && rows.any (fun row => shape.key row != key && column.get row == cell)
        then some (.unique label)
        else none

def setColumn (shape : TableShape ρ) (column : Column ρ) (key : String) (value : Cell)
    (rows : List ρ) : Except Fault (Nat × List ρ) :=
  let cell := column.affinity.store value
  match findRow shape.key key rows with
  | none => .ok (0, rows)
  | some row =>
      match shape.violation? column key cell rows (column.set row cell) with
      | some violation => .error (.violated violation)
      | none =>
          .ok (1, changeRows (fun row => shape.key row == key)
            (fun row => column.set row cell) rows)

def setNumber (shape : TableShape ρ) (key : String) (value : Cell) (rows : List ρ) :
    Except Fault (Nat × List ρ) :=
  if (findRow shape.key key rows).isNone then .ok (0, rows)
  else
    match Affinity.integer.store value with
    | .integer number =>
        if rows.any fun row => shape.key row != key && shape.number row == number then
          .error (.violated (.unique (shape.name ++ ".rowid")))
        else
          .ok (1, changeRows (fun row => shape.key row == key)
            (fun row => shape.renumber row number) rows)
    | _ => .error .rowNumberType

/-- The column by which a statement chooses its row has to be there.  A statement without it
leaves the value of the key over, the last of the given values. -/
def demandKey (columns : List String) (given : Nat) : Option String → Except Fault Unit
  | none => .error (.parameterCount given (given - 1))
  | some name =>
      if columns.contains (String.ofList (name.toList.map Text.asciiLowered)) then .ok ()
      else .error (.noSuchColumn name)

def columnNames (shape : TableShape ρ) : List String :=
  shape.columns.map Column.name

def update (shape : TableShape ρ) (statement : Update) (key : String) (value : Cell)
    (rows : List ρ) : Except Fault (Nat × List ρ) :=
  match findColumn shape.columns statement.column with
  | some column => do
      demandKey shape.columnNames 2 statement.key?
      shape.setColumn column key value rows
  | none =>
      if isRowNumberName statement.column then do
        demandKey shape.columnNames 2 statement.key?
        shape.setNumber key value rows
      else .error (.noSuchColumn statement.column)

def delete (shape : TableShape ρ) (statement : Delete) (key : String) (rows : List ρ) :
    Except Fault (Nat × List ρ) := do
  demandKey shape.columnNames 1 statement.key?
  let kept := rows.filter fun row => shape.key row != key
  return (rows.length - kept.length, kept)

end TableShape

/-! ### The tables of the database -/

def unitShape : TableShape UnitRow where
  name := "units"
  columns := UnitRow.columns
  key := UnitRow.symbol
  number := UnitRow.number
  renumber row number := { row with number := number }
  rule? _ := none

def formulationShape : TableShape FormulationRow where
  name := "formulations"
  columns := FormulationRow.columns
  key := FormulationRow.id
  number := FormulationRow.number
  renumber row number := { row with number := number }
  rule? _ := none

def lawnServiceShape : TableShape LawnServiceRow where
  name := "lawn_services"
  columns := LawnServiceRow.columns
  key := LawnServiceRow.id
  number := LawnServiceRow.number
  renumber row number := { row with number := number }
  rule? _ := none

def logShape : TableShape LogRow where
  name := "calibration_logs"
  columns := LogRow.columns
  key := LogRow.id
  number := LogRow.number
  renumber row number := { row with number := number }
  rule? _ := none

def recordShape : TableShape RecordRow where
  name := "calibration_records"
  columns := RecordRow.columns
  key := RecordRow.id
  number := RecordRow.number
  renumber row number := { row with number := number }
  rule? row :=
    if RecordRow.hasArea row.measurementArea then none
    else some (.check "measurement_area >= 0")

inductive TableKind where
  | units
  | formulations
  | lawnServices
  | logs
  | records
  /-- the versions of the schema on record -/
  | versions
deriving DecidableEq, Repr

def TableKind.named : List (String × TableKind) := [
  (unitShape.name, .units), (formulationShape.name, .formulations),
  (lawnServiceShape.name, .lawnServices), (logShape.name, .logs), (recordShape.name, .records),
  ("schema_migrations", .versions)]

/-- The names of the schemas that are always there: the one of the database and one for what
lasts no longer than its use. -/
def mainSchema : String := "main"
def temporarySchema : String := "temp"

def catalogueNames : List ((String × String) × String) := [
  ((mainSchema, "sqlite_master"), "sqlite_master"),
  ((mainSchema, "sqlite_schema"), "sqlite_master"),
  ((temporarySchema, "sqlite_temp_master"), "sqlite_temp_master"),
  ((temporarySchema, "sqlite_temp_schema"), "sqlite_temp_master")]

/-- The catalogue of the schema for temporary tables also goes by the names of the other one. -/
def temporaryCatalogueNames : List String := ["sqlite_master", "sqlite_schema"]

def findTable (reference : TableReference) : Except Fault TableKind :=
  let lowered (name : String) : String := String.ofList (name.toList.map Text.asciiLowered)
  let name := lowered reference.name
  let schema? := reference.schema?.map lowered
  let isIn (schema : String) : Bool := (schema?.map (· == schema)).getD true
  let catalogue? := catalogueNames.find? fun entry => isIn entry.1.1 && entry.1.2 == name
  match if isIn mainSchema then TableKind.named.lookup name else none, catalogue? with
  | some table, _ => .ok table
  | none, some entry => .error (.readOnlyTable entry.2)
  | none, none =>
      if schema? = some temporarySchema ∧ temporaryCatalogueNames.contains name then
        .error (.readOnlyTable "sqlite_temp_master")
      else
        let schemaPart := (reference.schema?.map (· ++ ".")).getD ""
        .error (.noSuchTable (schemaPart ++ reference.name))

/-- The columns of the table of versions.  They hold integers, and no text equals one. -/
def versionColumns : List String := ["version", "applied_at"]

def keyColumn (table : String) : String :=
  if table = unitShape.name then "symbol" else "id"

namespace Database

def setCell (db : Database) (table key column : String) (value : Cell) :
    Except Fault (Nat × Database) := do
  let statement ← Update.read (Update.text table column (keyColumn table))
  match ← findTable statement.table with
  | .units =>
      let (count, rows) ← unitShape.update statement key value db.units
      return (count, { db with units := rows })
  | .formulations =>
      let (count, rows) ← formulationShape.update statement key value db.formulations
      return (count, { db with formulations := rows })
  | .lawnServices =>
      let (count, rows) ← lawnServiceShape.update statement key value db.lawnServices
      return (count, { db with lawnServices := rows })
  | .logs =>
      let (count, rows) ← logShape.update statement key value db.logs
      return (count, { db with logs := rows })
  | .records =>
      let (count, rows) ← recordShape.update statement key value db.records
      return (count, { db with records := rows })
  | .versions =>
      let lowered := String.ofList (statement.column.toList.map Text.asciiLowered)
      if versionColumns.contains lowered || isRowNumberName statement.column then
        TableShape.demandKey versionColumns 2 statement.key?
        return (0, db)
      else .error (.noSuchColumn statement.column)

def deleteRow (db : Database) (table key : String) : Except Fault (Nat × Database) := do
  let statement ← Delete.read (Delete.text table (keyColumn table))
  match ← findTable statement.table with
  | .units =>
      let (count, rows) ← unitShape.delete statement key db.units
      return (count, { db with units := rows })
  | .formulations =>
      let (count, rows) ← formulationShape.delete statement key db.formulations
      return (count, { db with formulations := rows })
  | .lawnServices =>
      let (count, rows) ← lawnServiceShape.delete statement key db.lawnServices
      return (count, { db with lawnServices := rows })
  | .logs =>
      let (count, rows) ← logShape.delete statement key db.logs
      return (count, { db with logs := rows })
  | .records =>
      let (count, rows) ← recordShape.delete statement key db.records
      return (count, { db with records := rows })
  | .versions =>
      TableShape.demandKey versionColumns 1 statement.key?
      return (0, db)

end Database
end LawnCalibration.Store
