import LawnCalibration.Calendar.DateText
import LawnCalibration.Text.LetterCase

/-
The form in which documents carry instants.

It is written with as few groups of three fraction digits as keep the instant,
and read with much freedom: white space before any number, hyphen and colon of
the date and the clock, numbers of one digit, years with a sign, and an offset
with or without a colon.  Only what separates the date from the clock is one
character.
-/

set_option autoImplicit false

namespace LawnCalibration.Calendar.Interchange

open Text

/-- A fraction of a second in no, three, six or nine digits. -/
def fractionChars (nano : Nat) : List Char :=
  if nano = 0 then []
  else if nano % 1000000 = 0 then '.' :: fixedDigits 3 (nano / 1000000)
  else if nano % 1000 = 0 then '.' :: fixedDigits 6 (nano / 1000)
  else '.' :: fixedDigits 9 nano

def chars (instant : Instant) : List Char :=
  dateChars instant.date ++ 'T' :: clockChars instant ++ fractionChars instant.fraction ++ ['Z']

def text (instant : Instant) : String :=
  String.ofList (chars instant)

def isDateEnd (c : Char) : Bool :=
  c == 'T' || c == 't' || c == ' '

/-- Any run of colons and white space may stand between hours and minutes of an offset. -/
def skipSeparators (text : List Char) : Except ReadError (List Char) :=
  .ok (text.dropWhile fun c => c == ':' || isBlank c)

def isZoneName (u t c : Char) : Bool :=
  asciiLowered u == 'u' && asciiLowered t == 't' && asciiLowered c == 'c'

def readOffset : List Char → Field Int
  | u :: t :: c :: rest =>
      if isZoneName u t c then .ok (0, rest)
      else Calendar.readOffset skipSeparators (u :: t :: c :: rest)
  | text => Calendar.readOffset skipSeparators text

/-- The part before the offset, as a local clock shows it; the fields may name no instant. -/
def readLocal (text : List Char) : Except ReadError ((Option Instant) × List Char) := do
  let ((year, month, day), text) ← Date.readParts trimStart text
  let text ← readSymbol isDateEnd text
  let (hour, text) ← readBounded 2 0 23 text
  let text ← readSymbol (· == ':') (trimStart text)
  let (minute, text) ← readBounded 2 0 59 text
  let text ← readSymbol (· == ':') (trimStart text)
  let (second, text) ← readBounded 2 0 60 text
  let (nano, text) ← readOptionalFraction text
  let shown? := (Date.ofParts? year month day).bind fun date =>
    Instant.ofClock? date hour minute second nano
  return (shown?, text)

def read (text : String) : Except ReadError Instant := do
  let (shown?, text) ← readLocal text.toList
  let (minutes, text) ← readOffset (trimStart text)
  readEnd (trimStart text)
  let offset ← toOffset minutes
  match shown?.bind (Instant.ofLocal? · offset) with
  | none => .error .outOfRange
  | some instant => return instant

end LawnCalibration.Calendar.Interchange
