import LawnCalibration.Dyadic

/-
Dyadic numbers rounded to a limited number of bits.

A number with too many bits becomes the nearest one with few enough, and the
even one of two equally near.
-/

set_option autoImplicit false

namespace LawnCalibration.Dyadic

/-- A natural number divided by `2 ^ places`, to the nearest and to the even of two equally near. -/
def shiftedEven (n places : Nat) : Nat :=
  let quotient := n / Nat.pow 2 places
  let doubledRest := 2 * (n % Nat.pow 2 places)
  if doubledRest < Nat.pow 2 places ∨ (doubledRest = Nat.pow 2 places ∧ quotient % 2 = 0) then quotient
  else quotient + 1

/-- The nearest number with at most `precision` bits. -/
def rounded (precision : Nat) (number : Dyadic) : Dyadic :=
  let size := number.coefficient.natAbs
  let excess := Nat.log2 size + 1 - precision
  { coefficient := number.coefficient.sign * shiftedEven size excess
    exponent := number.exponent + excess }

def ofNat (n : Nat) : Dyadic :=
  { coefficient := n, exponent := 0 }

def mul (left right : Dyadic) : Dyadic :=
  { coefficient := left.coefficient * right.coefficient
    exponent := left.exponent + right.exponent }

/-- A positive fraction to the nearest number with at most `precision` bits.  The bit below
the quotient tells whether anything is left of the fraction. -/
def ofFraction (precision numerator denominator : Nat) : Dyadic :=
  let places := precision + Nat.log2 denominator + 2
  let quotient := numerator * Nat.pow 2 places / denominator
  let rest := numerator * Nat.pow 2 places % denominator
  rounded precision
    { coefficient := 2 * quotient + if rest = 0 then 0 else 1, exponent := -(places : Int) - 1 }

def powerOfTen (precision : Nat) : Int → Dyadic
  | .ofNat n => rounded precision (ofNat (Nat.pow 10 n))
  | .negSucc n => ofFraction precision 1 (Nat.pow 10 (n + 1))

def below (left right : Dyadic) : Bool :=
  let unit := min left.exponent right.exponent
  left.coefficient * Int.pow 2 (left.exponent - unit).toNat
    < right.coefficient * Int.pow 2 (right.exponent - unit).toNat

def wholePart (number : Dyadic) : Nat :=
  let fraction := number.magnitude
  fraction.1 / fraction.2

def toFloat (number : Dyadic) : Float :=
  let size := number.coefficient.natAbs
  if 0 ≤ number.exponent then Float.ofScientific (size * Nat.pow 2 number.exponent.toNat) false 0
  else
    let places := (-number.exponent).toNat
    Float.ofScientific (size * Nat.pow 5 places) true places

end LawnCalibration.Dyadic
