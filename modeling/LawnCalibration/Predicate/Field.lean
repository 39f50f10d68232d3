import LawnCalibration.Calendar.Instant
import LawnCalibration.Text.SnakeCase

/-
The fields of a filter.

A field names its column by an explicit mapping, or else by its serialization
name or its attribute in snake case.  A word of the attribute tells whether a
day or a timestamp is a lower bound, an upper bound or exact.  Nothing that a
value holds becomes part of a column name.
-/

set_option autoImplicit false

namespace LawnCalibration.Predicate

open Calendar (Date Instant)
open Text

inductive FieldValue where
  | identifier (bits : BitVec 128)
  | text (value : String)
  | integer (value : Int)
  | real (value : Float)
  | boolean (value : Bool)
  | day (date : Date)
  | instant (value : Instant)
deriving DecidableEq

structure Field where
  attributeName : String
  column : Option String
  serializationName : Option String
  value : Option FieldValue
deriving DecidableEq

namespace Field

def plain (attributeName : String) (value : Option FieldValue) : Field where
  attributeName := attributeName
  column := none
  serializationName := none
  value := value

def mapped (attributeName column : String) (value : Option FieldValue) : Field where
  attributeName := attributeName
  column := some column
  serializationName := none
  value := value

def columnName (field : Field) : String :=
  match field.column, field.serializationName with
  | some column, _ => column
  | none, some name => snakeCased name
  | none, none => snakeCased field.attributeName

/-- The value that constrains rows; the empty text does not. -/
def presentValue (field : Field) : Option FieldValue :=
  match field.value with
  | some (.text text) => if text = "" then none else some (.text text)
  | value => value

end Field

inductive RangeRole where
  | lower
  | upper
  | exact
deriving DecidableEq, Repr

def words : List Char → List (List Char)
  | [] => [[]]
  | c :: rest =>
      match words rest with
      | word :: later => if c = '_' then [] :: word :: later else (c :: word) :: later
      | [] => [[c]]

def lowerWords : List (List Char) :=
  [['f', 'r', 'o', 'm'], ['s', 't', 'a', 'r', 't']]

def upperWords : List (List Char) :=
  [['t', 'o'], ['e', 'n', 'd']]

/-- The role that the words of an attribute give; a word for the lower bound wins. -/
def rangeRole (attributeName : String) : RangeRole :=
  let parts := words (snakeCase attributeName.toList)
  if parts.any lowerWords.contains then .lower
  else if parts.any upperWords.contains then .upper
  else .exact

def isIdentifier : List Char → Bool
  | [] => false
  | c :: rest => (c.isAlpha || c == '_') && rest.all fun d => d.isAlphanum || d == '_'

end LawnCalibration.Predicate
