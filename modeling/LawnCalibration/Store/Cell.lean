import LawnCalibration.Predicate.Condition
import LawnCalibration.Store.Numeral

/-
The values that tables hold, and how they compare.

A column has an affinity: the type that a value takes when it is stored there
or compared with what is stored there, if it can.  Numbers compare by value,
texts by their characters, and every number stands before every text; nothing
compares with null.
-/

set_option autoImplicit false

namespace LawnCalibration.Store

open Text

inductive Cell where
  | null
  | integer (value : Int)
  | real (value : Float)
  | text (value : String)
deriving DecidableEq

inductive Affinity where
  | text
  | integer
  | real
deriving DecidableEq, Repr

def smallestInteger : Int := -Int.pow 2 63

def largestInteger : Int := Int.pow 2 63 - 1

/-- An integer as a value; one out of range is a real number. -/
def Cell.ofInt (n : Int) : Cell :=
  if smallestInteger ≤ n ∧ n ≤ largestInteger then .integer n else .real (Float.ofInt n)

def isNumberSpace (c : Char) : Bool :=
  c == ' ' || (9 ≤ c.toNat && c.toNat ≤ 13)

def numeral? (text : String) : Option (Bool × Decimal) :=
  let body := text.toList.dropWhile isNumberSpace
  let signed := Decimal.scanSign body
  match Decimal.scan signed.2 with
  | .found numeral rest => if rest.all isNumberSpace then some (signed.1, numeral) else none
  | _ => none

/-- A text without point and exponent is an integer if it fits; any other numeral is real. -/
def numberOfText? (text : String) : Option Cell :=
  match numeral? text with
  | none => none
  | some (negative, numeral) =>
      let value : Int := if negative then -numeral.digits else numeral.digits
      let isWhole := text.toList.all fun c => c.isDigit || c == '+' || c == '-' || isNumberSpace c
      if isWhole && smallestInteger ≤ value && value ≤ largestInteger then some (.integer value)
      else
        let x := realOfNumeral numeral
        some (.real (if negative then -x else x))

def integralCell (x : Float) : Cell :=
  match (Dyadic.ofFloat? x).bind Dyadic.toInt? with
  | some n => if smallestInteger < n ∧ n < largestInteger then .integer n else .real x
  | none => .real x

/-- A stored real: there is no negative zero, and what is no number is null. -/
def storedReal (x : Float) : Cell :=
  if x.isNaN then .null else if x == 0.0 then .real 0.0 else .real x

def Affinity.store : Affinity → Cell → Cell
  | .text, .integer n => .text (integerText n)
  | .text, .real x => if x.isNaN then .null else .text (realText x)
  | .text, cell => cell
  | .integer, .real x => if x.isNaN then .null else integralCell x
  | .integer, .text value =>
      match numberOfText? value with
      | some (.real x) => integralCell x
      | some number => number
      | none => .text value
  | .integer, cell => cell
  | .real, .integer n => .real (Float.ofInt n)
  | .real, .real x => storedReal x
  | .real, .text value =>
      match numberOfText? value with
      | some (.integer n) => .real (Float.ofInt n)
      | some (.real x) => storedReal x
      | _ => .text value
  | .real, .null => .null

def Affinity.compared : Affinity → Cell → Cell
  | .text, .integer n => .text (integerText n)
  | .text, .real x => .text (realText x)
  | .text, cell => cell
  | _, .text value => (numberOfText? value).getD (.text value)
  | _, cell => cell

def compareReal (n : Int) (x : Float) : Ordering :=
  match Dyadic.ofFloat? x with
  | some number => Dyadic.compareInt n number
  | none => if x < 0.0 then .gt else .lt

def Cell.order? : Cell → Cell → Option Ordering
  | .null, _ => none
  | _, .null => none
  | .text a, .text b => some (if a < b then .lt else if a = b then .eq else .gt)
  | .text _, _ => some .gt
  | _, .text _ => some .lt
  | .integer m, .integer n => some (compare m n)
  | .real x, .real y => some (if x < y then .lt else if x == y then .eq else .gt)
  | .integer n, .real x => some (compareReal n x)
  | .real x, .integer n => some (compareReal n x).swap

open Predicate (Comparison Parameter Condition)

def meets : Comparison → Ordering → Bool
  | .equal, order => order == .eq
  | .atLeast, order => order != .lt
  | .atMost, order => order != .gt

def parameterCell : Parameter → Cell
  | .text value => .text value
  | .integer value => .integer value
  | .real value => if value.isNaN then .null else .real value

/-- A row as queries see it: the affinity and the value of every column it has. -/
abbrev Columns := String → Option (Affinity × Cell)

/-- Whether a row meets a condition; there is no answer without the column. -/
def condition? (columns : Columns) (condition : Condition) : Option Bool :=
  (columns condition.column).map fun (affinity, cell) =>
    match cell.order? (affinity.compared (parameterCell condition.parameter)) with
    | some order => meets condition.comparison order
    | none => false

def selects (predicate : Predicate) (columns : Columns) : Bool :=
  predicate.conditions.all fun condition => (condition? columns condition).getD false

end LawnCalibration.Store
