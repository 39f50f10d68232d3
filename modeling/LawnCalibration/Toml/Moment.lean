import LawnCalibration.Calendar.Date
import LawnCalibration.Text.Digits

/-
Dates and times of a TOML text.

A date may be followed by a time, and the time by an offset; a time may also
stand alone.  Every field has its full width and lies in its range.
-/

set_option autoImplicit false

namespace LawnCalibration.Toml

open Text

def readField (width low high : Nat) (text : List Char) : Option (Nat × List Char) :=
  let digits := text.take width
  let value := decimalValue digits
  if digits.length = width ∧ digits.all Char.isDigit ∧ low ≤ value ∧ value ≤ high then
    some (value, text.drop width)
  else none

def dropOne? (accepts : Char → Bool) : List Char → Option (List Char)
  | [] => none
  | c :: rest => if accepts c then some rest else none

def dropDate? (text : List Char) : Option (List Char) := do
  let (year, text) ← readField 4 0 9999 text
  let text ← dropOne? (· == '-') text
  let (month, text) ← readField 2 1 12 text
  let text ← dropOne? (· == '-') text
  let (_, text) ← readField 2 1 (Calendar.daysInMonth year month) text
  return text

/-- The text after a fraction of at least one digit, or the whole text where there is none. -/
def skipFraction : List Char → List Char
  | '.' :: rest =>
      match rest.takeWhile Char.isDigit with
      | [] => '.' :: rest
      | _ => rest.dropWhile Char.isDigit
  | text => text

def dropTime? (text : List Char) : Option (List Char) := do
  let (_, text) ← readField 2 0 23 text
  let text ← dropOne? (· == ':') text
  let (_, text) ← readField 2 0 59 text
  let text ← dropOne? (· == ':') text
  let (_, text) ← readField 2 0 60 text
  return skipFraction text

def dropOffset? (text : List Char) : Option (List Char) :=
  match dropOne? (fun c => c == 'Z' || c == 'z') text with
  | some rest => some rest
  | none => do
      let text ← dropOne? (fun c => c == '+' || c == '-') text
      let (_, text) ← readField 2 0 23 text
      let text ← dropOne? (· == ':') text
      let (_, text) ← readField 2 0 59 text
      return text

def dropClock? (text : List Char) : Option (List Char) := do
  let text ← dropOne? (fun c => c == 'T' || c == 't' || c == ' ') text
  let text ← dropTime? text
  return (dropOffset? text).getD text

/-- The text after a date, a date with a time, or a time. -/
def dropMoment? (text : List Char) : Option (List Char) :=
  match dropDate? text with
  | some rest => some ((dropClock? rest).getD rest)
  | none => dropTime? text

end LawnCalibration.Toml
