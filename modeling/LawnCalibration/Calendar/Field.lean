import LawnCalibration.Calendar.Instant
import LawnCalibration.Text.Blank
import LawnCalibration.Text.Digits

/-
The fields that dates and timestamps are made of, read from the front of a text.

A reader returns its value and what is left of the text.  A field outside the
range that its place allows is refused as soon as it has been read.
-/

set_option autoImplicit false

namespace LawnCalibration.Calendar

open Text

inductive ReadError where
  | tooShort
  | invalid
  | outOfRange
  | trailing
deriving DecidableEq, Repr

def ReadError.message : ReadError → String
  | .tooShort => "premature end of input"
  | .invalid => "input contains invalid characters"
  | .outOfRange => "input is out of range"
  | .trailing => "trailing input"

/-- What a reader took from the front of a text, and what it left. -/
abbrev Field (α : Type) : Type :=
  Except ReadError (α × List Char)

def readSymbol (accepts : Char → Bool) : List Char → Except ReadError (List Char)
  | [] => .error .tooShort
  | c :: rest => if accepts c then .ok rest else .error .invalid

def readEnd (text : List Char) : Except ReadError Unit :=
  if text = [] then .ok () else .error .trailing

/-- At least one digit and at most `width` of them. -/
def readNumber (width : Nat) (text : List Char) : Field Nat :=
  match text with
  | [] => .error .tooShort
  | c :: _ =>
      if c.isDigit then
        let digits := (text.take width).takeWhile Char.isDigit
        .ok (decimalValue digits, text.drop digits.length)
      else .error .invalid

def readDigits (width : Nat) (text : List Char) : Field Nat :=
  let digits := text.take width
  if digits.length = width ∧ digits.all Char.isDigit then
    .ok (decimalValue digits, text.drop width)
  else .error .invalid

/-- A number of any length, which has to fit into a signed word of 64 bits. -/
def readLongNumber (text : List Char) : Field Nat :=
  match readNumber text.length text with
  | .error e => .error e
  | .ok (value, rest) => if value < Nat.pow 2 63 then .ok (value, rest) else .error .outOfRange

/-- A number between two bounds in a field of limited width; white space may stand in front. -/
def readBounded (width low high : Nat) (text : List Char) : Field Nat :=
  match readNumber width (trimStart text) with
  | .error e => .error e
  | .ok (value, rest) =>
      if low ≤ value ∧ value ≤ high then .ok (value, rest) else .error .outOfRange

/-- A year: up to four digits, or a sign and any number of digits.  White space may stand in
front. -/
def readYear (text : List Char) : Field Int :=
  let signed (sign : Int) (digits : List Char) : Field Int :=
    match readLongNumber digits with
    | .error e => .error e
    | .ok (value, rest) =>
        let year := sign * value
        if -Int.pow 2 31 ≤ year ∧ year < Int.pow 2 31 then .ok (year, rest) else .error .outOfRange
  match trimStart text with
  | '-' :: digits => signed (-1) digits
  | '+' :: digits => signed 1 digits
  | digits =>
      match readNumber 4 digits with
      | .error e => .error e
      | .ok (value, rest) => .ok (value, rest)

/-- The digits after a decimal point as nanoseconds; digits beyond the ninth do not count. -/
def readFraction (text : List Char) : Field Nat :=
  match text with
  | [] => .error .tooShort
  | c :: _ =>
      if c.isDigit then
        let digits := (text.take 9).takeWhile Char.isDigit
        .ok (decimalValue digits * Nat.pow 10 (9 - digits.length),
          (text.drop digits.length).dropWhile Char.isDigit)
      else .error .invalid

def readOptionalFraction : List Char → Field Nat
  | '.' :: digits => readFraction digits
  | text => .ok (0, text)

/-- Two digits, the first below `limit` tens. -/
def readOffsetDigits (limit : Nat) : List Char → Field Nat
  | a :: b :: rest =>
      if a.isDigit && b.isDigit then
        if digitValue a < limit then .ok (10 * digitValue a + digitValue b, rest)
        else .error .outOfRange
      else .error .invalid
  | [c] => if c.utf8Size < 2 then .error .tooShort else .error .invalid
  | [] => .error .tooShort

def readOffsetSign : List Char → Field Int
  | [] => .error .tooShort
  | c :: rest =>
      if c = '+' then .ok (1, rest)
      else if c = '-' ∨ c.toNat = 0x2212 then .ok (-1, rest)
      else .error .invalid

/-- The minutes of an offset: the letter Z, or signed hours and minutes with a
separator between them. -/
def readOffset (separator : List Char → Except ReadError (List Char)) (text : List Char) :
    Except ReadError (Int × List Char) :=
  match text with
  | 'Z' :: rest => .ok (0, rest)
  | 'z' :: rest => .ok (0, rest)
  | _ => do
      let (sign, text) ← readOffsetSign text
      let (hours, text) ← readOffsetDigits 10 text
      let text ← separator text
      let (minutes, text) ← readOffsetDigits 6 text
      return (sign * (60 * hours + minutes), text)

def toOffset (minutes : Int) : Except ReadError Instant.Offset :=
  match Instant.Offset.ofMinutes? minutes with
  | some offset => .ok offset
  | none => .error .outOfRange

/-- A year of four digits, or a sign and at least four digits outside the years 0 to 9999. -/
def yearChars (year : Int) : List Char :=
  if 0 ≤ year ∧ year ≤ 9999 then fixedDigits 4 year.toNat
  else
    (if year < 0 then '-' else '+') ::
      (if year.natAbs < 10000 then fixedDigits 4 year.natAbs else decimalDigits year.natAbs)

def dateChars (date : Date) : List Char :=
  yearChars date.year ++ '-' :: fixedDigits 2 date.month ++ '-' :: fixedDigits 2 date.day

def clockChars (instant : Instant) : List Char :=
  fixedDigits 2 instant.hour ++ ':' :: fixedDigits 2 instant.minute ++
    ':' :: fixedDigits 2 instant.clockSecond

end LawnCalibration.Calendar
