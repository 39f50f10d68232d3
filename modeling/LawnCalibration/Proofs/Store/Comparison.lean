import LawnCalibration.Proofs.Store.Reals
import Mathlib.Algebra.Order.Field.Basic
import Mathlib.Data.Rat.Cast.Order
import Mathlib.Data.String.Basic
import Mathlib.Tactic.NormNum

/-
Cells against parameters.

Texts are compared as they stand.  A number meets a number of the same value,
whether it is held as an integer or as a real; what is no number meets none.
-/

set_option autoImplicit false

namespace LawnCalibration

def Dyadic.value (number : Dyadic) : ℚ :=
  number.coefficient * 2 ^ number.exponent

theorem Dyadic.compareInt_eq_iff {n : Int} {number : Dyadic} :
    number.compareInt n = .eq ↔ number.value = n := by
  have hPower : ∀ places : Nat, Int.pow 2 places = 2 ^ places := fun _ => rfl
  unfold Dyadic.compareInt Dyadic.value
  split
  · rename_i hWhole
    have hExponent : (2 : ℚ) ^ number.exponent = 2 ^ number.exponent.toNat := by
      conv_lhs => rw [← Int.toNat_of_nonneg hWhole]
      exact zpow_natCast 2 _
    rw [compare_eq_iff_eq, hPower, hExponent, eq_comm]
    exact_mod_cast Iff.rfl
  · rename_i hFraction
    have hPlaces : number.exponent = -((-number.exponent).toNat : Int) := by omega
    have hExponent : (2 : ℚ) ^ number.exponent = (2 ^ (-number.exponent).toNat)⁻¹ := by
      conv_lhs => rw [hPlaces]
      rw [zpow_neg, zpow_natCast]
    rw [compare_eq_iff_eq, hPower, hExponent, ← div_eq_mul_inv, div_eq_iff (by positivity), eq_comm]
    exact_mod_cast Iff.rfl

open Float.Model in
/-- Only numbers have an exact value. -/
theorem Dyadic.ofFloat?_of_isNaN {x : Float} (hNaN : x.isNaN = true) : ofFloat? x = none := by
  have hSpecial : @UnpackedFloat.unpackExponent Format.binary64 x.toBits.toBitVec = -1#11 := by
    change (UnpackedFloat.unpack Format.binary64 x.toBits.toBitVec).isNaN = true at hNaN
    by_contra hOther
    unfold UnpackedFloat.unpack at hNaN
    dsimp only at hNaN
    rw [if_neg hOther] at hNaN
    by_cases hLeast : @UnpackedFloat.unpackExponent Format.binary64 x.toBits.toBitVec = 0#11
    · rw [if_pos hLeast] at hNaN
      by_cases hMantissa : @UnpackedFloat.unpackMantissa Format.binary64 x.toBits.toBitVec = 0#52
      · rw [dif_pos hMantissa] at hNaN
        cases hNaN
      · rw [dif_neg hMantissa] at hNaN
        cases hNaN
    · rw [if_neg hLeast] at hNaN
      cases hNaN
  have hBiased := congrArg BitVec.toNat hSpecial
  unfold UnpackedFloat.unpackExponent at hBiased
  rw [BitVec.toNat_cast, BitVec.extractLsb_toNat, Nat.shiftRight_eq_div_pow] at hBiased
  exact if_pos hBiased

namespace Store

open Predicate (Comparison Parameter)

/-- A text in its column against a text as parameter. -/
theorem condition?_text {columns : Columns} {column value : String}
    (hColumn : columns column = some (.text, .text value)) (comparison : Comparison)
    (parameter : String) :
    condition? columns ⟨column, comparison, .text parameter⟩ = some (meets comparison
      (if value < parameter then .lt else if value = parameter then .eq else .gt)) := by
  unfold condition?
  rw [hColumn]
  rfl

theorem meets_equal_iff {value parameter : String} :
    meets .equal (if value < parameter then .lt else if value = parameter then .eq else .gt) = true ↔
      value = parameter := by
  split
  · rename_i hLess
    exact iff_of_false (by decide) hLess.ne
  · split <;> simp_all [meets]

theorem meets_atLeast_iff {value parameter : String} :
    meets .atLeast (if value < parameter then .lt else if value = parameter then .eq else .gt) = true ↔
      parameter ≤ value := by
  split
  · rename_i hLess
    exact iff_of_false (by decide) hLess.not_ge
  · rename_i hLess
    refine iff_of_true ?_ (not_lt.1 hLess)
    split <;> rfl

theorem meets_atMost_iff {value parameter : String} :
    meets .atMost (if value < parameter then .lt else if value = parameter then .eq else .gt) = true ↔
      value ≤ parameter := by
  split
  · rename_i hLess
    exact iff_of_true rfl hLess.le
  · rename_i hLess
    split
    · rename_i hSame
      exact iff_of_true rfl hSame.le
    · rename_i hOther
      exact iff_of_false (by decide) fun hAtMost => hLess (lt_of_le_of_ne hAtMost hOther)

def Cell.IsInteger (number : Int) : Cell → Prop
  | .integer held => held = number
  | .real held => ∃ exact ∈ Dyadic.ofFloat? held, exact.value = number
  | _ => False

def Cell.IsReal (number : Float) : Cell → Prop
  | .integer held => ∃ exact ∈ Dyadic.ofFloat? number, exact.value = held
  | .real held => (held == number) = true
  | _ => False

instance (number : Int) : (cell : Cell) → Decidable (cell.IsInteger number)
  | .null => inferInstanceAs (Decidable False)
  | .integer held => inferInstanceAs (Decidable (held = number))
  | .real held => inferInstanceAs (Decidable (∃ exact ∈ Dyadic.ofFloat? held, exact.value = number))
  | .text _ => inferInstanceAs (Decidable False)

instance (number : Float) : (cell : Cell) → Decidable (cell.IsReal number)
  | .null => inferInstanceAs (Decidable False)
  | .integer held =>
      inferInstanceAs (Decidable (∃ exact ∈ Dyadic.ofFloat? number, exact.value = held))
  | .real held => inferInstanceAs (Decidable ((held == number) = true))
  | .text _ => inferInstanceAs (Decidable False)

theorem compareReal_eq_iff {n : Int} {x : Float} :
    compareReal n x = .eq ↔ ∃ exact ∈ Dyadic.ofFloat? x, exact.value = n := by
  unfold compareReal
  cases Dyadic.ofFloat? x with
  | none =>
      refine iff_of_false ?_ ?_
      · dsimp only
        split <;> decide
      · rintro ⟨exact, hExact, -⟩
        cases hExact
  | some exact =>
      simp only [Option.mem_some_iff, exists_eq_left']
      exact Dyadic.compareInt_eq_iff

private theorem not_lt_of_beq {x y : Float} (hEqual : (x == y) = true) : ¬ x < y := by
  intro hLess
  have hModel : x.toModel.unpack.compare y.toModel.unpack = some .lt :=
    beq_iff_eq.1 (of_decide_eq_true (p := x.toModel < y.toModel) hLess)
  have hSame : x.toModel.unpack.compare y.toModel.unpack = some .eq := beq_iff_eq.1 hEqual
  rw [hModel] at hSame
  cases hSame

theorem order_real_eq_iff {x y : Float} :
    (if x < y then Ordering.lt else if x == y then .eq else .gt) = .eq ↔ (x == y) = true := by
  by_cases hEqual : (x == y) = true
  · rw [if_neg (not_lt_of_beq hEqual), if_pos hEqual]
    exact iff_of_true rfl hEqual
  · refine iff_of_false ?_ hEqual
    rw [if_neg hEqual]
    split <;> decide

section Equality

variable {columns : Columns} {column : String} {affinity : Affinity} {cell : Cell}

private theorem meets_equal_order_iff {order : Ordering} :
    meets .equal order = true ↔ order = .eq := by
  cases order <;> decide

theorem condition?_equal_iff (hColumn : columns column = some (affinity, cell))
    (parameter : Parameter) :
    condition? columns ⟨column, .equal, parameter⟩ = some true ↔
      cell.order? (affinity.compared (parameterCell parameter)) = some .eq := by
  unfold condition?
  rw [hColumn, Option.map_some, Option.some_inj]
  dsimp only
  cases cell.order? (affinity.compared (parameterCell parameter)) with
  | none => exact iff_of_false Bool.false_ne_true (Option.some_ne_none _).symm
  | some order => exact meets_equal_order_iff.trans Option.some_inj.symm

/-- A column of text holds just the text that is asked for. -/
theorem condition?_equal_text_iff (hColumn : columns column = some (.text, cell)) (value : String) :
    condition? columns ⟨column, .equal, .text value⟩ = some true ↔ cell = .text value := by
  cases cell with
  | text held =>
      rw [condition?_text hColumn, Option.some_inj, meets_equal_iff, Cell.text.injEq]
  | _ =>
      rw [condition?_equal_iff hColumn]
      simp [Affinity.compared, parameterCell, Cell.order?]

private theorem compared_of_number (hAffinity : affinity ≠ .text) {number : Cell}
    (hNumber : ∀ value, number ≠ .text value) : affinity.compared number = number := by
  cases affinity with
  | text => exact absurd rfl hAffinity
  | integer =>
      cases number with
      | text value => exact absurd rfl (hNumber value)
      | _ => rfl
  | real =>
      cases number with
      | text value => exact absurd rfl (hNumber value)
      | _ => rfl

theorem condition?_equal_integer_iff (hColumn : columns column = some (affinity, cell))
    (hAffinity : affinity ≠ .text) (number : Int) :
    condition? columns ⟨column, .equal, .integer number⟩ = some true ↔ cell.IsInteger number := by
  rw [condition?_equal_iff hColumn, parameterCell, compared_of_number hAffinity (by simp)]
  cases cell with
  | null => simp [Cell.order?, Cell.IsInteger]
  | integer held => simp [Cell.order?, Cell.IsInteger]
  | real held =>
      rw [Cell.order?, Option.some_inj, Ordering.swap_eq_eq]
      exact compareReal_eq_iff
  | text held => simp [Cell.order?, Cell.IsInteger]

/-- What is no number is bound as null, and it has no exact value either. -/
private theorem not_isReal_of_isNaN {number : Float} (hNaN : number.isNaN = true) :
    ¬ cell.IsReal number := by
  cases cell with
  | null => exact id
  | integer held =>
      unfold Cell.IsReal
      rw [Dyadic.ofFloat?_of_isNaN hNaN]
      rintro ⟨exact, hExact, -⟩
      cases hExact
  | real held =>
      intro hEqual
      have hSame : held.toModel.unpack.compare number.toModel.unpack = some .eq :=
        beq_iff_eq.1 hEqual
      change number.toModel.unpack.isNaN = true at hNaN
      generalize number.toModel.unpack = unpacked at hNaN hSame
      cases unpacked with
      | notANumber =>
          generalize held.toModel.unpack = other at hSame
          cases other with
          | infinity sign => cases sign <;> cases hSame
          | finite sign => cases sign <;> cases hSame
          | _ => cases hSame
      | _ => cases hNaN
  | text held => exact id

theorem condition?_equal_real_iff (hColumn : columns column = some (affinity, cell))
    (hAffinity : affinity ≠ .text) (number : Float) :
    condition? columns ⟨column, .equal, .real number⟩ = some true ↔ cell.IsReal number := by
  rw [condition?_equal_iff hColumn]
  cases hNaN : number.isNaN with
  | true =>
      refine iff_of_false ?_ (not_isReal_of_isNaN hNaN)
      rw [parameterCell, if_pos hNaN, compared_of_number hAffinity (by simp)]
      cases cell <;> simp [Cell.order?]
  | false =>
      rw [parameterCell, hNaN, if_neg (by decide), compared_of_number hAffinity (by simp)]
      cases cell with
      | null => simp [Cell.order?, Cell.IsReal]
      | integer held =>
          rw [Cell.order?, Option.some_inj]
          exact compareReal_eq_iff
      | real held =>
          rw [Cell.order?, Option.some_inj]
          exact order_real_eq_iff
      | text held => simp [Cell.order?, Cell.IsReal]

end Equality

end Store
end LawnCalibration
