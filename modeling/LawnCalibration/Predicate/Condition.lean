import LawnCalibration.Calendar.Timestamp
import LawnCalibration.Identifier
import LawnCalibration.Predicate.Field

/-
The conditions that the fields of a filter stand for, and their query text.

A day is widened to its first and last nanosecond.  The text holds column names,
comparisons and numbered placeholders; values travel beside it as parameters.
-/

set_option autoImplicit false

namespace LawnCalibration.Predicate

open Calendar (Instant)

inductive Comparison where
  | equal
  | atLeast
  | atMost
deriving DecidableEq, Repr

def Comparison.symbol : Comparison → String
  | .equal => "="
  | .atLeast => ">="
  | .atMost => "<="

inductive Parameter where
  | text (value : String)
  | integer (value : Int)
  | real (value : Float)
deriving DecidableEq

structure Condition where
  column : String
  comparison : Comparison
  parameter : Parameter
deriving DecidableEq

def instantParameter (instant : Instant) : Parameter :=
  .text (Calendar.Timestamp.text instant)

/-- The comparisons that a value stands for under the role of its attribute. -/
def comparisons (role : RangeRole) : FieldValue → List (Comparison × Parameter)
  | .day date =>
      let start := instantParameter (Instant.startOfDay date)
      let stop := instantParameter (Instant.endOfDay date)
      match role with
      | .lower => [(.atLeast, start)]
      | .upper => [(.atMost, stop)]
      | .exact => [(.atLeast, start), (.atMost, stop)]
  | .instant value =>
      match role with
      | .lower => [(.atLeast, instantParameter value)]
      | .upper => [(.atMost, instantParameter value)]
      | .exact => [(.equal, instantParameter value)]
  | .identifier bits => [(.equal, .text (Identifier.text (⟨bits⟩ : UserId)))]
  | .text value => [(.equal, .text value)]
  | .integer value => [(.equal, .integer value)]
  | .real value => [(.equal, .real value)]
  | .boolean value => [(.equal, .integer (if value then 1 else 0))]

/-- The conditions of one field: none without a value or without a usable column. -/
def Field.conditions (field : Field) : List Condition :=
  match field.presentValue with
  | none => []
  | some value =>
      let column := field.columnName
      if isIdentifier column.toList then
        (comparisons (rangeRole field.attributeName) value).map fun (comparison, parameter) =>
          { column, comparison, parameter }
      else []

end LawnCalibration.Predicate

namespace LawnCalibration

structure Predicate where
  conditions : List Predicate.Condition
deriving DecidableEq

namespace Predicate

open Text

def ofFields (fields : List Field) : Predicate where
  conditions := fields.flatMap Field.conditions

def parameters (predicate : Predicate) : List Parameter :=
  predicate.conditions.map Condition.parameter

def Condition.sql (qualifier : Option String) (number : Nat) (condition : Condition) : String :=
  let column :=
    match qualifier with
    | some table => table ++ "." ++ condition.column
    | none => condition.column
  column ++ " " ++ condition.comparison.symbol ++ " ?" ++ decimalText number

/-- The conditions as text with parameters numbered from `first` on; without any, a condition
that always holds. -/
def sql (predicate : Predicate) (qualifier : Option String) (first : Nat) : String :=
  if predicate.conditions = [] then "1 = 1"
  else
    " AND ".intercalate (predicate.conditions.zipIdx.map fun (condition, index) =>
      condition.sql qualifier (first + index))

end Predicate

end LawnCalibration
