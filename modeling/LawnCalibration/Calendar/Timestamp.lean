import LawnCalibration.Calendar.Field

/-
Timestamps of fixed width.

The storage form of an instant has nine fraction digits and ends in Z.  Within
the years 0 to 9999 it is thirty characters long, so that such texts stand in
the order of their instants.  The reader takes that form and its relatives with
a shorter fraction or with an offset.
-/

set_option autoImplicit false

namespace LawnCalibration.Calendar.Timestamp

open Text

def chars (instant : Instant) : List Char :=
  dateChars instant.date ++ 'T' :: clockChars instant ++
    '.' :: fixedDigits 9 instant.fraction ++ ['Z']

def text (instant : Instant) : String :=
  String.ofList (chars instant)

def isDateEnd (c : Char) : Bool :=
  c == 'T' || c == 't' || c == ' '

def readLocal (text : List Char) : Except ReadError (Instant × List Char) := do
  let (year, text) ← readDigits 4 text
  let text ← readSymbol (· == '-') text
  let (month, text) ← readDigits 2 text
  let text ← readSymbol (· == '-') text
  let (day, text) ← readDigits 2 text
  match Date.ofParts? year month day with
  | none => .error .outOfRange
  | some date =>
      let text ← readSymbol isDateEnd text
      let (hour, text) ← readDigits 2 text
      let text ← readSymbol (· == ':') text
      let (minute, text) ← readDigits 2 text
      let text ← readSymbol (· == ':') text
      let (second, text) ← readDigits 2 text
      let (nano, text) ← readOptionalFraction text
      match Instant.ofClock? date hour minute second nano with
      | none => .error .outOfRange
      | some shown => return (shown, text)

/-- Reads a timestamp; a text of fewer than nineteen bytes is too short whatever it holds. -/
def readChars (text : List Char) : Except ReadError Instant :=
  if byteLength text < 19 then .error .tooShort
  else do
    let (shown, text) ← readLocal text
    let (minutes, text) ← readOffset (readSymbol (· == ':')) text
    readEnd text
    let offset ← toOffset minutes
    match Instant.ofLocal? shown offset with
    | none => .error .outOfRange
    | some instant => return instant

def read (text : String) : Except ReadError Instant :=
  readChars text.toList

end LawnCalibration.Calendar.Timestamp
