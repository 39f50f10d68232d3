/-
Finite binary64 numbers as exact products of an integer and a power of two.
-/

set_option autoImplicit false

namespace LawnCalibration

/-- The number `coefficient * 2 ^ exponent`. -/
structure Dyadic where
  coefficient : Int
  exponent : Int
deriving DecidableEq, Repr

namespace Dyadic

def ofFloat? (x : Float) : Option Dyadic :=
  let bits : Nat := x.toBits.toNat
  let fraction : Nat := bits % Nat.pow 2 52
  let biased : Nat := bits / Nat.pow 2 52 % Nat.pow 2 11
  let sign : Int := if bits / Nat.pow 2 63 = 0 then 1 else -1
  if biased = 2047 then none
  else if biased = 0 then some { coefficient := sign * (fraction : Int), exponent := -1074 }
  else some { coefficient := sign * (Int.pow 2 52 + (fraction : Int)), exponent := (biased : Int) - 1075 }

def compareInt (n : Int) (number : Dyadic) : Ordering :=
  if 0 ≤ number.exponent then
    compare n (number.coefficient * Int.pow 2 number.exponent.toNat)
  else
    compare (n * Int.pow 2 (-number.exponent).toNat) number.coefficient

def toInt? (number : Dyadic) : Option Int :=
  if 0 ≤ number.exponent then some (number.coefficient * Int.pow 2 number.exponent.toNat)
  else
    let unit : Int := Int.pow 2 (-number.exponent).toNat
    if number.coefficient % unit = 0 then some (number.coefficient / unit) else none

def magnitude (number : Dyadic) : Nat × Nat :=
  if 0 ≤ number.exponent then (number.coefficient.natAbs * Nat.pow 2 number.exponent.toNat, 1)
  else (number.coefficient.natAbs, Nat.pow 2 (-number.exponent).toNat)

end Dyadic
end LawnCalibration
