import LawnCalibration.Calendar.Field

/-
Dates as text: year, month and day with hyphens between them.

The plain form is read with white space around the whole text and in front of
each number; the spaced form also allows it in front of the hyphens.
-/

set_option autoImplicit false

namespace LawnCalibration.Calendar.Date

open Text

def text (date : Date) : String :=
  String.ofList (dateChars date)

def readParts (beforeHyphen : List Char → List Char) (text : List Char) :
    Except ReadError ((Int × Nat × Nat) × List Char) := do
  let (year, text) ← readYear text
  let text ← readSymbol (· == '-') (beforeHyphen text)
  let (month, text) ← readBounded 2 1 12 text
  let text ← readSymbol (· == '-') (beforeHyphen text)
  let (day, text) ← readBounded 2 1 31 text
  return ((year, month, day), text)

def ofParts (parts : Int × Nat × Nat) : Except ReadError Date :=
  match ofParts? parts.1 parts.2.1 parts.2.2 with
  | some date => .ok date
  | none => .error .outOfRange

def read (text : String) : Except ReadError Date := do
  let (parts, rest) ← readParts id (trim text.toList)
  readEnd rest
  ofParts parts

def readSpaced (text : String) : Except ReadError Date := do
  let (parts, rest) ← readParts trimStart text.toList
  readEnd (trimStart rest)
  ofParts parts

end LawnCalibration.Calendar.Date
