import LawnCalibration.Store.Row
import LawnCalibration.Store.Statement

/-
Queries on a table by a predicate.

A query names its columns without quotes, each alone or behind the name of the
table.  A keyword that stands there is no column: the query is refused, or the
keyword has a value of its own.
-/

set_option autoImplicit false

namespace LawnCalibration.Store

open Predicate (Condition)
open Statement (reservedWords)

variable {ρ : Type}

inductive Operand where
  | column
  /-- a value that belongs to no column -/
  | value (cell : Cell)
  /-- no operand; this token cannot stand where it stands -/
  | refused (token : String)
deriving DecidableEq

/-- The texts that stand for the time at which a query is asked. -/
structure Clock where
  date : String
  time : String
  timestamp : String
deriving DecidableEq, Repr

/-- The keywords that have a value where they stand alone. -/
def Clock.words (clock : Clock) : List (String × Cell) := [
  ("null", .null), ("current_date", .text clock.date), ("current_time", .text clock.time),
  ("current_timestamp", .text clock.timestamp)]

/-- Words that have a value where no column has their name. -/
def truthWords : List (String × Cell) := [("true", .integer 1), ("false", .integer 0)]

/-- Keywords that begin another expression, which cannot end before a comparison. -/
def openingWords : List String := ["case", "cast", "exists", "not", "raise"]

def isOneOf (words : List String) (name : String) : Bool :=
  words.any fun word => word.toList == folded name

def readAlone (clock : Clock) (columns : List (Column ρ)) (condition : Condition) : Operand :=
  let spoken := if (findColumn columns condition.column).isSome then [] else truthWords
  match (clock.words ++ spoken).find? fun word => word.1.toList == folded condition.column with
  | some word => .value word.2
  | none =>
      if isOneOf openingWords condition.column then .refused condition.comparison.symbol
      else if isOneOf reservedWords condition.column then .refused condition.column
      else .column

def readQualified (condition : Condition) : Operand :=
  if isOneOf reservedWords condition.column then .refused condition.column else .column

/-- The name of the table in front of a point may no more be a keyword than a column that stands
alone. -/
def readName (clock : Clock) (qualifier : Option String) (columns : List (Column ρ))
    (condition : Condition) : Operand :=
  match qualifier with
  | some table =>
      if isOneOf (clock.words.map Prod.fst ++ openingWords) table then .refused "."
      else if isOneOf reservedWords table then .refused table
      else readQualified condition
  | none => readAlone clock columns condition

def Operand.fault? : Operand → Option Fault
  | .refused token => some (.syntaxNear token)
  | _ => none

def Operand.meets (columns : Columns) (condition : Condition) : Operand → Bool
  | .column => (condition? columns condition).getD false
  | .value cell =>
      match cell.order? (parameterCell condition.parameter) with
      | some order => Store.meets condition.comparison order
      | none => false
  | .refused _ => false

def missingColumn? (columns : List (Column ρ)) (operand : Operand) (condition : Condition) :
    Option Fault :=
  if operand = .column ∧ (findColumn columns condition.column).isNone then
    some (.noSuchColumn condition.column)
  else none

/-- The rows that meet all conditions of a query.  The query is read to its end before any column
is looked up, and all columns have to exist even where there are no rows. -/
def selectRows (operand : Condition → Operand) (columns : List (Column ρ)) (predicate : Predicate)
    (rows : List ρ) : Except Fault (List ρ) :=
  match predicate.conditions.findSome? fun condition => (operand condition).fault? with
  | some fault => .error fault
  | none =>
      match predicate.conditions.findSome? fun condition =>
          missingColumn? columns (operand condition) condition with
      | some fault => .error fault
      | none => .ok (rows.filter fun row => predicate.conditions.all fun condition =>
          (operand condition).meets (columnsOf columns row) condition)

/-- Where every name is read as that of a column and the column exists, the rows are those that the
predicate selects. -/
theorem selectRows_eq_ok {operand : Condition → Operand} {columns : List (Column ρ)}
    {predicate : Predicate} {rows : List ρ}
    (hOperand : ∀ condition ∈ predicate.conditions, operand condition = .column)
    (hColumns : ∀ condition ∈ predicate.conditions,
      (findColumn columns condition.column).isSome = true) :
    selectRows operand columns predicate rows =
      .ok (rows.filter fun row => selects predicate (columnsOf columns row)) := by
  have hRead : predicate.conditions.findSome? (fun condition => (operand condition).fault?) = none := by
    rw [List.findSome?_eq_none_iff]
    intro condition hCondition
    rw [hOperand condition hCondition]
    rfl
  have hThere : predicate.conditions.findSome? (fun condition =>
      missingColumn? columns (operand condition) condition) = none := by
    rw [List.findSome?_eq_none_iff]
    intro condition hCondition
    refine if_neg fun hMissing => ?_
    rw [← Option.not_isSome, hColumns condition hCondition] at hMissing
    exact Bool.noConfusion hMissing.2
  have hMeets : ∀ row : ρ, (predicate.conditions.all fun condition =>
      (operand condition).meets (columnsOf columns row) condition) =
        selects predicate (columnsOf columns row) := by
    intro row
    rw [selects, Bool.eq_iff_iff, List.all_eq_true, List.all_eq_true]
    refine forall₂_congr fun condition hCondition => ?_
    rw [hOperand condition hCondition]
    rfl
  rw [selectRows, hRead, hThere]
  exact congrArg Except.ok (List.filter_congr fun row _ => hMeets row)

/-- The rows that a query selects which names every column behind the name of the table. -/
def queryRows (columns : List (Column ρ)) (predicate : Predicate) (rows : List ρ) :
    Except Fault (List ρ) :=
  selectRows readQualified columns predicate rows

end LawnCalibration.Store
