import LawnCalibration.Decimal
import LawnCalibration.Document
import LawnCalibration.Toml.Quoted

/-
Numbers of a TOML text.

Single underscores may stand between digits.  An integer fits into a signed word
of 64 bits and is written in decimal digits without leading zeros, or without
sign in base sixteen, eight or two.  A real number may be infinite only if it is
written so or is negative.
-/

set_option autoImplicit false

namespace LawnCalibration.Toml

open Text

/-- Digits with single underscores between them; the flag tells that a digit is due. -/
def isGrouped (isDigit : Char → Bool) (due : Bool) : List Char → Bool
  | [] => !due
  | c :: rest => if c = '_' then !due && isGrouped isDigit true rest
      else isDigit c && isGrouped isDigit false rest

def readDigits (isDigit : Char → Bool) (text : List Char) : Option (Taken (List Char)) :=
  let run := text.takeWhile fun c => isDigit c || c == '_'
  if isGrouped isDigit true run then
    some (run.filter (· != '_'), text.dropWhile fun c => isDigit c || c == '_')
  else none

def readWhole (text : List Char) : Option (Taken (List Char)) :=
  match readDigits Char.isDigit text with
  | some ('0' :: _ :: _, _) => none
  | found => found

def valueIn (base : Nat) (digits : List Char) : Nat :=
  digits.foldl (fun value c => base * value + (hexValue? c).getD 0) 0

def isDigitOf (base : Nat) (c : Char) : Bool :=
  match hexValue? c with
  | some value => value < base
  | none => false

def ofInteger? (value : Int) : Option Document :=
  if -Int.pow 2 63 ≤ value ∧ value < Int.pow 2 63 then some (.integer value) else none

/-- An integer of another base after its two characters of prefix. -/
def readInteger (base : Nat) (text : List Char) : Option (Taken Document) := do
  let (digits, rest) ← readDigits (isDigitOf base) text
  return (← ofInteger? (valueIn base digits), rest)

def readExponent : List Char → Option (Taken Int)
  | mark :: text =>
      if mark = 'e' ∨ mark = 'E' then do
        let (negative, text) := Decimal.scanSign text
        let (digits, rest) ← readDigits Char.isDigit text
        let size : Int := decimalValue digits
        return (if negative then -size else size, rest)
      else some (0, mark :: text)
  | [] => some (0, [])

/-- A real number with its sign; one too large is refused unless it is negative. -/
def ofReal? (negative : Bool) (numeral : Decimal) : Option Document :=
  let value := numeral.toFloat
  if negative then some (.real (-value))
  else if value.isInf then none
  else some (.real value)

def readDecimal (negative : Bool) (text : List Char) : Option (Taken Document) := do
  let (whole, rest) ← readWhole text
  match rest with
  | '.' :: text =>
      let (fraction, text) ← readDigits Char.isDigit text
      let (exponent, rest) ← readExponent text
      return (← ofReal? negative { whole, fraction, exponent }, rest)
  | mark :: _ =>
      if mark = 'e' ∨ mark = 'E' then
        let (exponent, rest) ← readExponent rest
        return (← ofReal? negative { whole, fraction := [], exponent }, rest)
      else
        let value : Int := decimalValue whole
        return (← ofInteger? (if negative then -value else value), rest)
  | [] =>
      let value : Int := decimalValue whole
      return (← ofInteger? (if negative then -value else value), [])

def readSpecial : List Char → Option (Taken Document)
  | 'i' :: 'n' :: 'f' :: rest => some (.real (1.0 / 0.0), rest)
  | 'n' :: 'a' :: 'n' :: rest => some (.real (0.0 / 0.0), rest)
  | _ => none

def readNumber : List Char → Option (Taken Document)
  | '0' :: 'x' :: rest => readInteger 16 rest
  | '0' :: 'o' :: rest => readInteger 8 rest
  | '0' :: 'b' :: rest => readInteger 2 rest
  | text =>
      let (negative, rest) := Decimal.scanSign text
      match readSpecial rest with
      | some (.real value, rest) => some (.real (if negative then -value else value), rest)
      | _ => readDecimal negative rest

end LawnCalibration.Toml
