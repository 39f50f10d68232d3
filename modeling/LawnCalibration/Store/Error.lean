import LawnCalibration.Calendar.Field
import LawnCalibration.Identifier
import LawnCalibration.Schema.Clash
import LawnCalibration.Store.Location
import LawnCalibration.Text.Quoted

/-
Why the store refuses a request or a row.

A conflict is a broken constraint on a write, corruption a stored text that is
no identifier or no timestamp; everything else is a fault of the database.
-/

set_option autoImplicit false

namespace LawnCalibration.Store

open Text

inductive EntityName where
  | unit
  | formulation
  | lawnService
  | calibrationLog
  | calibrationRecord
deriving DecidableEq, Repr

def EntityName.label : EntityName → String
  | .unit => "unit"
  | .formulation => "formulation"
  | .lawnService => "lawn service"
  | .calibrationLog => "calibration log"
  | .calibrationRecord => "calibration record"

inductive Violation where
  | notNull (column : String)
  | check (rule : String)
  | unique (column : String)
  | foreignKey
deriving DecidableEq, Repr

def Violation.message : Violation → String
  | .notNull column => "NOT NULL constraint failed: " ++ column
  | .check rule => "CHECK constraint failed: " ++ rule
  | .unique column => "UNIQUE constraint failed: " ++ column
  | .foreignKey => "FOREIGN KEY constraint failed"

inductive CellType where
  | null
  | integer
  | real
  | text
deriving DecidableEq, Repr

def CellType.label : CellType → String
  | .null => "Null"
  | .integer => "Integer"
  | .real => "Real"
  | .text => "Text"

inductive Fault where
  /-- a value of another type than the column is read as -/
  | columnType (found : CellType) (index : Nat) (column : String)
  /-- an integer that does not fit into the word it is read as -/
  | integerRange (value : Int) (index : Nat)
  | noSuchTable (table : String)
  | noSuchColumn (column : String)
  | violated (constraint : Violation)
  /-- a token of a statement that cannot stand where it stands -/
  | syntaxNear (token : String)
  | unrecognizedToken (token : String)
  | incompleteStatement
  /-- one value for several columns -/
  | assignedColumns (count : Nat)
  | readOnlyTable (table : String)
  /-- a statement with fewer parameters than there are values for it -/
  | parameterCount (given needed : Nat)
  /-- a row number that is no integer -/
  | rowNumberType
  | clash (names : Schema.Clash)
  | opening (refusal : Location.Refusal)
deriving DecidableEq, Repr

def Fault.message : Fault → String
  | .columnType found index column =>
      "Invalid column type " ++ found.label ++ " at index: " ++ decimalText index ++
        ", name: " ++ column
  | .integerRange value index =>
      "Integer " ++ integerText value ++ " out of range at index " ++ decimalText index
  | .noSuchTable table => "no such table: " ++ table
  | .noSuchColumn column => "no such column: " ++ column
  | .violated constraint => constraint.message
  | .syntaxNear token => "near \"" ++ token ++ "\": syntax error"
  | .unrecognizedToken token => "unrecognized token: \"" ++ token ++ "\""
  | .incompleteStatement => "incomplete input"
  | .assignedColumns count => decimalText count ++ " columns assigned 1 values"
  | .parameterCount given needed =>
      "Wrong number of parameters passed to query. Got " ++ decimalText given ++ ", needed " ++
        decimalText needed
  | .readOnlyTable table => "table " ++ table ++ " may not be modified"
  | .rowNumberType => "datatype mismatch"
  | .clash names => names.message
  | .opening refusal => refusal.message

inductive Corruption where
  | identifier (error : Identifier.ReadError)
  | timestamp (error : Calendar.ReadError)
deriving DecidableEq, Repr

def Corruption.message : Corruption → String
  | .identifier error => error.message
  | .timestamp error => error.message

end LawnCalibration.Store

namespace LawnCalibration

inductive StoreError where
  | database (fault : Store.Fault)
  | corrupt (column value : String) (reason : Store.Corruption)
  | conflict (entity : Store.EntityName) (violation : Store.Violation)
  | migration (version : Int) (clash : Schema.Clash)
deriving DecidableEq, Repr

def StoreError.message : StoreError → String
  | .database fault => "sqlite: " ++ fault.message
  | .corrupt column value reason =>
      "corrupt " ++ column ++ " value " ++ Text.Quoted.encode value ++ ": " ++ reason.message
  | .conflict entity violation =>
      entity.label ++ " conflicts with existing data: " ++ violation.message
  | .migration version clash =>
      "migration " ++ Text.integerText version ++ " failed: " ++ clash.message

end LawnCalibration
