/-
Decimal and hexadecimal digits, read and written.

A field of fixed width keeps its leading zeros, so that two such fields of one
width compare as their numbers do.
-/

set_option autoImplicit false

namespace LawnCalibration.Text

def digitValue (c : Char) : Nat :=
  c.toNat - 48

def decimalValue (digits : List Char) : Nat :=
  digits.foldl (fun value c => 10 * value + digitValue c) 0

def digitChar (n : Nat) : Char :=
  Char.ofNat (48 + n % 10)

/-- The last `width` decimal digits of a number, zeros in front. -/
def fixedDigits : Nat → Nat → List Char
  | 0, _ => []
  | width + 1, n => fixedDigits width (n / 10) ++ [digitChar n]

def decimalDigits (n : Nat) : List Char :=
  Nat.toDigits 10 n

def decimalText (n : Nat) : String :=
  String.ofList (decimalDigits n)

def integerText : Int → String
  | .ofNat n => decimalText n
  | .negSucc n => String.ofList ('-' :: decimalDigits (n + 1))

@[simp] theorem fixedDigits_length (width n : Nat) : (fixedDigits width n).length = width := by
  induction width generalizing n with
  | zero => rfl
  | succ width ih => simp [fixedDigits, ih]

def hexValue? (c : Char) : Option Nat :=
  if '0' ≤ c ∧ c ≤ '9' then some (c.toNat - 48)
  else if 'a' ≤ c ∧ c ≤ 'f' then some (c.toNat - 87)
  else if 'A' ≤ c ∧ c ≤ 'F' then some (c.toNat - 55)
  else none

def hexDigitChar (n : Nat) : Char :=
  let digit := n % 16
  if digit < 10 then Char.ofNat (48 + digit) else Char.ofNat (87 + digit)

def fixedHexDigits : Nat → Nat → List Char
  | 0, _ => []
  | width + 1, n => fixedHexDigits width (n / 16) ++ [hexDigitChar n]

def hexadecimalValue? (digits : List Char) : Option Nat :=
  digits.foldlM (fun value c => (hexValue? c).map (16 * value + ·)) 0

@[simp] theorem fixedHexDigits_length (width n : Nat) :
    (fixedHexDigits width n).length = width := by
  induction width generalizing n with
  | zero => rfl
  | succ width ih => simp [fixedHexDigits, ih]

inductive UnsignedError where
  | empty
  | invalidDigit
  | tooLarge
deriving DecidableEq, Repr

def UnsignedError.message : UnsignedError → String
  | .empty => "cannot parse integer from empty string"
  | .invalidDigit => "invalid digit found in string"
  | .tooLarge => "number too large to fit in target type"

/-- Digits are taken from the left, and the first character that is no digit or
that carries the number to the limit decides the error. -/
def unsignedDigits (limit : Nat) : Nat → List Char → Except UnsignedError Nat
  | value, [] => .ok value
  | value, c :: rest =>
      if c.isDigit then
        let next := 10 * value + digitValue c
        if next < limit then unsignedDigits limit next rest else .error .tooLarge
      else .error .invalidDigit

/-- A decimal number below `limit`, optionally after one plus sign. -/
def unsigned? (limit : Nat) : List Char → Except UnsignedError Nat
  | [] => .error .empty
  | ['+'] => .error .invalidDigit
  | '+' :: digits => unsignedDigits limit 0 digits
  | digits => unsignedDigits limit 0 digits

end LawnCalibration.Text
