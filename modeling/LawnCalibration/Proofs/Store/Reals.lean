import LawnCalibration.Store.Row
import Mathlib.Tactic.Common

/-
Real numbers in columns.

A number that is written is read back as an equal number; only the sign of zero
is lost.  What is no number is never written, and a finite number always is.
-/

set_option autoImplicit false

namespace LawnCalibration.Store

open Float.Model (UnpackedFloat)

private theorem compare_self {x : UnpackedFloat} (hNumber : x.isNaN = false) :
    x.compare x = some .eq := by
  cases x with
  | notANumber => cases hNumber
  | infinity sign => cases sign <;> rfl
  | zero sign => rfl
  | finite sign mantissa exponent =>
      have hOrder : (compare exponent exponent).then (compare mantissa mantissa) = .eq := by
        simp only [Std.ReflCmp.compare_self, Ordering.then_self]
      cases sign with
      | positive => exact congrArg some hOrder
      | negative => exact congrArg (fun order : Ordering => some order.swap) hOrder

private theorem beq_self_of_number {x : Float} (hNumber : x.isNaN = false) : (x == x) = true := by
  change (x.toModel.unpack.compare x.toModel.unpack == some .eq) = true
  rw [compare_self hNumber]
  rfl

private theorem eq_zero_of_compare {x : UnpackedFloat} {sign : UnpackedFloat.Sign}
    (hEqual : x.compare (.zero sign) = some .eq) : ∃ sign, x = .zero sign := by
  cases x with
  | notANumber => cases hEqual
  | infinity sign => cases sign <;> cases hEqual
  | zero sign => exact ⟨sign, rfl⟩
  | finite sign mantissa exponent => cases sign <;> cases hEqual

private theorem unpack_of_beq_zero {x : Float} (hZero : (x == 0.0) = true) :
    ∃ sign, x.toModel.unpack = .zero sign := by
  change (x.toModel.unpack.compare (0.0 : Float).toModel.unpack == some .eq) = true at hZero
  exact eq_zero_of_compare (beq_iff_eq.1 hZero)

private theorem zero_beq_of_beq_zero {x : Float} (hZero : (x == 0.0) = true) :
    ((0.0 : Float) == x) = true := by
  obtain ⟨sign, hUnpacked⟩ := unpack_of_beq_zero hZero
  change ((0.0 : Float).toModel.unpack.compare x.toModel.unpack == some .eq) = true
  rw [hUnpacked]
  rfl

private theorem isNaN_of_beq_zero {x : Float} (hZero : (x == 0.0) = true) : x.isNaN = false := by
  obtain ⟨sign, hUnpacked⟩ := unpack_of_beq_zero hZero
  change x.toModel.unpack.isNaN = false
  rw [hUnpacked]
  rfl

theorem isNaN_of_isFinite {x : Float} (hFinite : x.isFinite = true) : x.isNaN = false := by
  change x.toModel.unpack.isFinite = true at hFinite
  change x.toModel.unpack.isNaN = false
  cases hUnpacked : x.toModel.unpack with
  | notANumber =>
      rw [hUnpacked] at hFinite
      cases hFinite
  | _ => rfl

/-- A number as it is read back: zero has lost its sign. -/
def settled (x : Float) : Float :=
  if x == 0.0 then 0.0 else x

private theorem settled_zero : settled 0.0 = 0.0 :=
  if_pos rfl

theorem settled_beq {x : Float} (hNumber : x.isNaN = false) : (settled x == x) = true := by
  unfold settled
  split
  · rename_i hZero
    exact zero_beq_of_beq_zero hZero
  · exact beq_self_of_number hNumber

theorem settled_settled (x : Float) : settled (settled x) = settled x := by
  by_cases hZero : (x == 0.0) = true
  · have hSettled : settled x = 0.0 := if_pos hZero
    rw [hSettled, settled_zero]
  · have hSettled : settled x = x := if_neg hZero
    rw [hSettled, hSettled]

theorem storedReal_eq_settled {x : Float} (hNumber : x.isNaN = false) :
    storedReal x = .real (settled x) := by
  unfold storedReal settled
  rw [hNumber, if_neg (by decide)]
  split
  · rfl
  · rfl

theorem storedReal_of_isNaN {x : Float} (hNumber : x.isNaN = true) : storedReal x = .null := by
  unfold storedReal
  rw [if_pos hNumber]

theorem storedReal_ne_null_iff {x : Float} : storedReal x ≠ .null ↔ x.isNaN = false := by
  cases hNumber : x.isNaN with
  | true => simp [storedReal_of_isNaN hNumber]
  | false => simp [storedReal_eq_settled hNumber]

theorem storedReal_settled (x : Float) : storedReal (settled x) = storedReal x := by
  by_cases hZero : (x == 0.0) = true
  · have hSettled : settled x = 0.0 := if_pos hZero
    rw [storedReal_eq_settled (isNaN_of_beq_zero hZero), hSettled]
    rfl
  · have hSettled : settled x = x := if_neg hZero
    rw [hSettled]

/-- What is read from a real column that was written. -/
theorem readReal_storedReal_eq_ok_iff {index : Nat} {column : String} {x found : Float} :
    readReal index column (storedReal x) = .ok found ↔ x.isNaN = false ∧ settled x = found := by
  cases hNumber : x.isNaN with
  | true => simp [storedReal_of_isNaN hNumber, readReal]
  | false => simp [storedReal_eq_settled hNumber, readReal]

theorem readWord32_toNat {index : Nat} {column : String} (area : UInt32) :
    readWord32 index column (.integer area.toNat) = .ok area := by
  have hBound : (area.toNat : Int) < Int.pow 2 32 := by
    have hSize := area.toNat_lt
    change (area.toNat : Int) < 4294967296
    omega
  simp only [readWord32]
  rw [if_pos ⟨Int.natCast_nonneg _, hBound⟩, Int.toNat_natCast, UInt32.ofNat_toNat]

end LawnCalibration.Store
