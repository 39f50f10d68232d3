import LawnCalibration.Decimal
import LawnCalibration.Dyadic.Rounding

/-
Real numbers written as text and read from it, as tables do both.

Between the two stands a working number of sixty-four bits, scaled by powers of
ten in steps of a hundred places, ten places and one; each step rounds it.
Digits beyond what it holds do not count, and a text shows fifteen at most.  So
a number written and read again need not come back to the last bit.
-/

set_option autoImplicit false

namespace LawnCalibration.Store

open Text

def workingBits : Nat := 64

inductive Stride where
  | hundred
  | ten
  | one
deriving DecidableEq, Repr

def Stride.places : Stride → Nat
  | .hundred => 100
  | .ten => 10
  | .one => 1

def hundredUp : Dyadic := Dyadic.powerOfTen workingBits 100
def tenUp : Dyadic := Dyadic.powerOfTen workingBits 10
def oneUp : Dyadic := Dyadic.powerOfTen workingBits 1
def hundredDown : Dyadic := Dyadic.powerOfTen workingBits (-100)
def tenDown : Dyadic := Dyadic.powerOfTen workingBits (-10)
def oneDown : Dyadic := Dyadic.powerOfTen workingBits (-1)

def Stride.factor : Stride → Bool → Dyadic
  | .hundred, true => hundredUp
  | .ten, true => tenUp
  | .one, true => oneUp
  | .hundred, false => hundredDown
  | .ten, false => tenDown
  | .one, false => oneDown

def Stride.step (stride : Stride) (up : Bool) (number : Dyadic) : Dyadic :=
  (number.mul (stride.factor up)).rounded workingBits

/-- A working number scaled by a power of ten, the long steps first. -/
def scaled (up : Bool) (power : Nat) (number : Dyadic) : Dyadic :=
  Nat.repeat (Stride.one.step up) (power % 10)
    (Nat.repeat (Stride.ten.step up) (power / 10 % 10)
      (Nat.repeat (Stride.hundred.step up) (power / 100) number))

def walk (stride : Stride) (up : Bool) (due : Dyadic → Bool) : Nat → Nat × Dyadic → Nat × Dyadic
  | 0, walked => walked
  | fuel + 1, (places, number) =>
      if due number then walk stride up due fuel (places + stride.places, stride.step up number)
      else (places, number)

/-- The bound at which a number is large enough, or too large, to be read off in whole digits. -/
def power (exponent : Int) : Dyadic :=
  Dyadic.powerOfTen workingBits exponent

/-- A positive number as an integer of eighteen or nineteen digits and the power of ten that
scales it.  A binary64 number is at most 340 places away, so twenty steps of a kind are enough. -/
def spread (number : Dyadic) : Nat × Int :=
  if number.below (power 19) then
    let upwards (stride : Stride) (bound : Int) := walk stride true (·.below (power bound)) 20
    let (places, number) :=
      upwards .one 17 (upwards .ten 7 (upwards .hundred (-97) (0, number)))
    (number.wholePart, -(places : Int))
  else
    let downwards (stride : Stride) (bound : Int) :=
      walk stride false (fun number => !number.below (power bound)) 20
    let (places, number) :=
      downwards .one 19 (downwards .ten 29 (downwards .hundred 119 (0, number)))
    (number.wholePart, places)

/-- The first fifteen digits of an integer with more of them, and the exponent of the first.
A half goes up. -/
def fifteenDigits (whole : Nat) : List Char × Int :=
  let length := (decimalDigits whole).length
  let rounded := (whole / Nat.pow 10 (length - 16) + 5) / 10
  if Nat.pow 10 15 ≤ rounded then (decimalDigits (rounded / 10), length)
  else (decimalDigits rounded, (length : Int) - 1)

def dropTrailingZeros (digits : List Char) : List Char :=
  (digits.reverse.dropWhile (· == '0')).reverse

def fractionDigits (digits : List Char) : List Char :=
  match dropTrailingZeros digits with
  | [] => ['0']
  | kept => kept

def exponentDigits (exponent : Int) : List Char :=
  let size := exponent.natAbs
  (if exponent < 0 then '-' else '+') ::
    (if size < 100 then fixedDigits 2 size else decimalDigits size)

/-- Digits with a point, positional where the first digit stands from four places
after the point to fifteen before it. -/
def pointed (digits : List Char) (exponent : Int) : List Char :=
  if exponent < -4 ∨ 14 < exponent then
    digits.take 1 ++ '.' :: fractionDigits (digits.drop 1) ++ 'e' :: exponentDigits exponent
  else if exponent < 0 then
    '0' :: '.' :: fractionDigits (List.replicate ((-exponent).toNat - 1) '0' ++ digits)
  else
    digits.take (exponent.toNat + 1) ++ '.' :: fractionDigits (digits.drop (exponent.toNat + 1))

/-- A real number in at most fifteen digits, always with a point. -/
def realText (x : Float) : String :=
  match Dyadic.ofFloat? x with
  | none => if x < 0.0 then "-Inf" else "Inf"
  | some number =>
      if number.coefficient = 0 then "0.0"
      else
        let (whole, scale) := spread { number with coefficient := number.coefficient.natAbs }
        let (digits, exponent) := fifteenDigits whole
        let body := pointed digits (exponent + scale)
        String.ofList (if number.coefficient < 0 then '-' :: body else body)

/-- Digits count while the integer that they make stays below this, so that it keeps within
sixty-four bits. -/
def countedLimit : Nat := (Nat.pow 2 64 - 10) / 10

def counted (numeral : Decimal) : Nat × Int :=
  let whole := numeral.whole.foldl
    (fun (value, scale) c =>
      if value < countedLimit then (10 * value + digitValue c, scale) else (value, scale + 1))
    ((0, 0) : Nat × Int)
  numeral.fraction.foldl
    (fun (value, scale) c =>
      if value < countedLimit then (10 * value + digitValue c, scale - 1) else (value, scale))
    whole

/-- An exponent with more than five digits counts as ten thousand. -/
def boundedExponent (exponent : Int) : Int :=
  if exponent.natAbs < 100000 then exponent else exponent.sign * 10000

def absorb : Nat → Nat → Nat × Nat
  | 0, value => (0, value)
  | power + 1, value =>
      if value < (Nat.pow 2 64 - 1) / 10 then absorb power (10 * value) else (power + 1, value)

def cancel : Nat → Nat → Nat × Nat
  | 0, value => (0, value)
  | power + 1, value =>
      if value % 10 = 0 then cancel power (value / 10) else (power + 1, value)

def greatest : Dyadic :=
  { coefficient := Int.pow 2 53 - 1, exponent := 971 }

/-- The real number that a numeral is read as; what exceeds every finite one is infinite. -/
def realOfNumeral (numeral : Decimal) : Float :=
  let (value, scale) := counted numeral
  if value = 0 then 0.0
  else
    let exponent := boundedExponent numeral.exponent + scale
    let number :=
      if 0 ≤ exponent then
        let (power, value) := absorb exponent.toNat value
        scaled true power (Dyadic.ofNat value)
      else
        let (power, value) := cancel (-exponent).toNat value
        scaled false power (Dyadic.ofNat value)
    if greatest.below number then 1.0 / 0.0 else number.toFloat

end LawnCalibration.Store
