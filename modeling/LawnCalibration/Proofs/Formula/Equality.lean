import LawnCalibration.Formula.Evaluation
import LawnCalibration.Proofs.Formula.Typing
import Mathlib

/-
Equality of values.

Numbers count as equal when their difference is small enough.  A difference and
the opposite one have the same magnitude, so it does not matter which operand
comes first.  A finite number equals itself; an infinite one does not, for it
has no difference from itself.
-/

set_option autoImplicit false

namespace LawnCalibration.Formula

open Float.Model (Format UnpackedFloat)
open Float.Model.UnpackedFloat

private theorem abs_roundWithAccuracy (spec : Format) (sign other : Sign) (mantissa : Nat)
    (exponent : Int)
    (accuracy : Accuracy) : (roundWithAccuracy spec sign mantissa exponent accuracy).abs =
      (roundWithAccuracy spec other mantissa exponent accuracy).abs := by
  unfold roundWithAccuracy
  dsimp only
  split
  · rfl
  · rfl

private theorem abs_round (spec : Format) (sign other : Sign) (mantissa : Nat) (exponent : Int) :
    (round spec sign mantissa exponent).abs = (round spec other mantissa exponent).abs :=
  abs_roundWithAccuracy spec sign other _ _ _

/-- An integer and its opposite are rounded alike. -/
private theorem abs_normalize_neg (spec : Format) (mantissa exponent : Int) (sign : Sign) :
    (UnpackedFloat.normalize spec (-mantissa) exponent sign).abs =
      (UnpackedFloat.normalize spec mantissa exponent sign).abs := by
  rcases lt_trichotomy mantissa 0 with hNegative | rfl | hPositive
  · have hOpposite : compare (-mantissa) 0 = .gt := Int.compare_eq_gt.2 (by omega)
    have hSame : compare mantissa 0 = .lt := Int.compare_eq_lt.2 hNegative
    simp only [UnpackedFloat.normalize, hOpposite, hSame]
    exact abs_round spec _ _ _ _
  · rfl
  · have hOpposite : compare (-mantissa) 0 = .lt := Int.compare_eq_lt.2 (by omega)
    have hSame : compare mantissa 0 = .gt := Int.compare_eq_gt.2 hPositive
    simp only [UnpackedFloat.normalize, hOpposite, hSame, Int.neg_neg]
    exact abs_round spec _ _ _ _

/-- A difference and the opposite one have the same magnitude. -/
private theorem abs_sub_comm (spec : Format) (x y : UnpackedFloat) :
    (UnpackedFloat.sub spec x y).abs = (UnpackedFloat.sub spec y x).abs := by
  cases x with
  | notANumber => cases y <;> rfl
  | infinity sign =>
      cases y with
      | infinity other => cases sign <;> cases other <;> rfl
      | _ => rfl
  | zero sign =>
      cases y with
      | zero other => cases sign <;> cases other <;> rfl
      | _ => rfl
  | finite sign mantissa exponent hPositive =>
      cases y with
      | finite other coefficient power hOther =>
          simp only [UnpackedFloat.sub, min_comm power exponent]
          rw [← abs_normalize_neg, Int.neg_sub]
      | _ => rfl

private theorem abs_unpack_packComponents (spec : Format) (sign other : Sign)
    (exponent : BitVec spec.exponentBits) (mantissa : BitVec spec.mantissaBitsWithoutImplicit) :
    (unpack spec (packComponents spec sign exponent mantissa)).abs =
      (unpack spec (packComponents spec other exponent mantissa)).abs := by
  simp only [unpack, unpackMantissa_packComponents, unpackExponent_packComponents]
  split
  · split
    · rfl
    · rfl
  · split
    · split
      · rfl
      · rfl
    · rfl

/-- The sign of a number is packed beside the rest of it. -/
private theorem exists_pack_finite (spec : Format) {mantissa : Nat} (exponent : Int)
    (hPositive : 0 < mantissa) : ∃ biased bits, ∀ sign,
      pack spec (.finite sign mantissa exponent hPositive) = packComponents spec sign biased bits := by
  by_cases hLarge : 2 ^ spec.exponentBits ≤
      (exponent + spec.exponentBias + spec.mantissaBitsWithoutImplicit).toNat + 1
  · exact ⟨_, _, fun sign => if_pos hLarge⟩
  · by_cases hNormal : mantissa.log2 + 1 = spec.mantissaBits
    · exact ⟨_, _, fun sign => (if_neg hLarge).trans (if_pos hNormal)⟩
    · exact ⟨_, _, fun sign => (if_neg hLarge).trans (if_neg hNormal)⟩

private theorem abs_unpack_pack_abs (spec : Format) (x : UnpackedFloat) :
    (unpack spec (pack spec x.abs)).abs = (unpack spec (pack spec x)).abs := by
  cases x with
  | notANumber => rfl
  | infinity sign => exact abs_unpack_packComponents spec _ _ _ _
  | zero sign => exact abs_unpack_packComponents spec _ _ _ _
  | finite sign mantissa exponent hPositive =>
      obtain ⟨biased, bits, hPack⟩ := exists_pack_finite spec exponent hPositive
      rw [UnpackedFloat.abs, hPack, hPack]
      exact abs_unpack_packComponents spec _ _ _ _

theorem distance_comm (x y : Float) : (x - y).abs = (y - x).abs := by
  have hPacked : (x - y).toModel.unpack.abs = (y - x).toModel.unpack.abs := by
    change (unpack Format.binary64 (pack Format.binary64
        (UnpackedFloat.sub Format.binary64 x.toModel.unpack y.toModel.unpack))).abs =
      (unpack Format.binary64 (pack Format.binary64
        (UnpackedFloat.sub Format.binary64 y.toModel.unpack x.toModel.unpack))).abs
    rw [← abs_unpack_pack_abs, abs_sub_comm, abs_unpack_pack_abs]
  exact congrArg (fun unpacked => Float.ofModel (Float.Model.pack unpacked)) hPacked

theorem sub_self_of_finite (spec : Format) (sign : Sign) {mantissa : Nat} (exponent : Int)
    (hPositive : 0 < mantissa) :
    UnpackedFloat.sub spec (.finite sign mantissa exponent hPositive)
      (.finite sign mantissa exponent hPositive) = .zero .positive := by
  simp only [UnpackedFloat.sub, Int.sub_self]
  rfl

/-- The difference of a finite number and itself is nothing; any other number has none. -/
theorem distance_self_lt (x : Float) : decide ((x - x).abs < tolerance) = x.isFinite := by
  change decide ((Float.ofModel (Float.Model.pack
    (UnpackedFloat.sub Format.binary64 x.toModel.unpack x.toModel.unpack))).abs < tolerance) =
      x.toModel.unpack.isFinite
  cases x.toModel.unpack with
  | notANumber => rfl
  | infinity sign => cases sign <;> rfl
  | zero sign => cases sign <;> rfl
  | finite sign mantissa exponent hPositive =>
      rw [sub_self_of_finite]
      rfl

/-! ### Equality of values -/

namespace Value

def isFinite : Value → Bool
  | .number x => x.isFinite
  | .boolean _ => true

def isNaN : Value → Bool
  | .number x => x.isNaN
  | .boolean _ => false

theorem equal_self (value : Value) : value.equal value = .ok value.isFinite := by
  cases value with
  | number x => exact congrArg Except.ok (distance_self_lt x)
  | boolean b => exact congrArg Except.ok (beq_self_eq_true b)

private theorem equal_comm_of_type {left right : Value} (hType : left.type = right.type) :
    ∃ same, left.equal right = .ok same ∧ right.equal left = .ok same := by
  cases hLeft : left.type with
  | number =>
      obtain ⟨x, rfl⟩ := exists_number hLeft
      obtain ⟨y, rfl⟩ := exists_number (hType.symm.trans hLeft)
      refine ⟨_, rfl, ?_⟩
      rw [equal, distance_comm]
  | boolean =>
      obtain ⟨a, rfl⟩ := exists_boolean hLeft
      obtain ⟨b, rfl⟩ := exists_boolean (hType.symm.trans hLeft)
      exact ⟨_, rfl, congrArg Except.ok Bool.beq_comm⟩

end Value

namespace Expr

variable {budget : Budget} {bindings : Bindings} {left right : Expr} {leftValue rightValue : Value}

/-- Operators that always look at both operands. -/
private theorem evaluateWithin_binary {op : BinaryOp} (hTime : budget.isSpent = false)
    (hOp : ∀ value, op.shortcut? value = none)
    (hLeft : left.evaluateWithin budget bindings = .ok leftValue)
    (hRight : right.evaluateWithin budget bindings = .ok rightValue) :
    (binary op left right).evaluateWithin budget bindings = op.apply leftValue rightValue := by
  rw [evaluateWithin, hTime, if_neg Bool.false_ne_true] at hLeft hRight ⊢
  simp only [evaluate, hLeft, hOp, hRight]

theorem evaluateWithin_eq (hTime : budget.isSpent = false)
    (hLeft : left.evaluateWithin budget bindings = .ok leftValue)
    (hRight : right.evaluateWithin budget bindings = .ok rightValue) :
    (binary .eq left right).evaluateWithin budget bindings =
      (leftValue.equal rightValue).map .boolean :=
  evaluateWithin_binary hTime (fun _ => rfl) hLeft hRight

theorem evaluateWithin_neq (hTime : budget.isSpent = false)
    (hLeft : left.evaluateWithin budget bindings = .ok leftValue)
    (hRight : right.evaluateWithin budget bindings = .ok rightValue) :
    (binary .neq left right).evaluateWithin budget bindings =
      (leftValue.equal rightValue).map fun same => .boolean (!same) :=
  evaluateWithin_binary hTime (fun _ => rfl) hLeft hRight

/-- As long as there is time, a formula equals itself exactly when its value is a truth value or a
finite number, and is unequal to itself exactly when it is neither.  Formulas whose values have one
type are equal or not whichever of them comes first, and unequal exactly when they are not equal. -/
theorem equality_holds_of_finite_values (hTime : budget.isSpent = false) :
    (∀ (expr : Expr) (value : Value), expr.evaluateWithin budget bindings = .ok value →
      (binary .eq expr expr).evaluateWithin budget bindings = .ok (.boolean value.isFinite) ∧
        (binary .neq expr expr).evaluateWithin budget bindings = .ok (.boolean (!value.isFinite))) ∧
    ∀ (left right : Expr) (leftValue rightValue : Value),
      left.evaluateWithin budget bindings = .ok leftValue →
      right.evaluateWithin budget bindings = .ok rightValue → leftValue.type = rightValue.type →
        ∃ same,
          (binary .eq left right).evaluateWithin budget bindings = .ok (.boolean same) ∧
          (binary .eq right left).evaluateWithin budget bindings = .ok (.boolean same) ∧
          (binary .neq left right).evaluateWithin budget bindings = .ok (.boolean (!same)) ∧
          (binary .neq right left).evaluateWithin budget bindings = .ok (.boolean (!same)) := by
  constructor
  · intro expr value hValue
    rw [evaluateWithin_eq hTime hValue hValue, evaluateWithin_neq hTime hValue hValue,
      value.equal_self]
    exact ⟨rfl, rfl⟩
  · intro left right leftValue rightValue hLeft hRight hType
    obtain ⟨same, hSame, hOther⟩ := Value.equal_comm_of_type hType
    refine ⟨same, ?_⟩
    rw [evaluateWithin_eq hTime hLeft hRight, evaluateWithin_eq hTime hRight hLeft,
      evaluateWithin_neq hTime hLeft hRight, evaluateWithin_neq hTime hRight hLeft, hSame, hOther]
    exact ⟨rfl, rfl, rfl, rfl⟩

/-- A sum that differs from `threeTenths` in its last bit. -/
def sumOfTenths : Expr :=
  .binary .add (.number 0.1) (.number 0.2)

def threeTenths : Expr :=
  .number 0.3

/-- The two are equal in either order, as each of them is to itself. -/
theorem sumOfTenths_equals_threeTenths :
    let sum : Value := .number 0.30000000000000004
    let tenths : Value := .number 0.3
    let none : Bindings := fun _ => none
    (⟨100⟩ : Budget).isSpent = false ∧ sum ≠ tenths ∧ sum.type = tenths.type ∧
      sumOfTenths.evaluateWithin ⟨100⟩ none = .ok sum ∧
      threeTenths.evaluateWithin ⟨100⟩ none = .ok tenths ∧
      (binary .eq sumOfTenths sumOfTenths).evaluateWithin ⟨100⟩ none = .ok (.boolean true) ∧
      (binary .neq sumOfTenths sumOfTenths).evaluateWithin ⟨100⟩ none = .ok (.boolean false) ∧
      (binary .eq sumOfTenths threeTenths).evaluateWithin ⟨100⟩ none = .ok (.boolean true) ∧
      ∃ same,
        (binary .eq sumOfTenths threeTenths).evaluateWithin ⟨100⟩ none = .ok (.boolean same) ∧
        (binary .eq threeTenths sumOfTenths).evaluateWithin ⟨100⟩ none = .ok (.boolean same) ∧
        (binary .neq sumOfTenths threeTenths).evaluateWithin ⟨100⟩ none = .ok (.boolean (!same)) ∧
        (binary .neq threeTenths sumOfTenths).evaluateWithin ⟨100⟩ none = .ok (.boolean (!same)) := by
  intro sum tenths none
  have hTime : (⟨100⟩ : Budget).isSpent = false := by decide
  have hSum : sumOfTenths.evaluateWithin ⟨100⟩ none = .ok sum := by decide +kernel
  have hTenths : threeTenths.evaluateWithin ⟨100⟩ none = .ok tenths := by decide +kernel
  have hEqual : (binary .eq sumOfTenths threeTenths).evaluateWithin ⟨100⟩ none =
      .ok (.boolean true) := by decide +kernel
  obtain ⟨hSelf, hPairs⟩ := @equality_holds_of_finite_values ⟨100⟩ none hTime
  obtain ⟨hSame, hOther⟩ := hSelf sumOfTenths sum hSum
  have hFinite : sum.isFinite = true := by decide +kernel
  rw [hFinite] at hSame hOther
  exact ⟨hTime, by decide +kernel, rfl, hSum, hTenths, hSame, hOther, hEqual,
    hPairs sumOfTenths threeTenths sum tenths hSum hTenths rfl⟩

def hugeLiteral : Expr :=
  .number 1e999

/-- Infinity is at least itself and at most itself, yet it does not equal itself. -/
theorem not_equality_reflexive :
    let none : Bindings := fun _ => none
    parse "1e999 == 1e999" = .ok (.binary .eq hugeLiteral hugeLiteral) ∧
      (binary .gte hugeLiteral hugeLiteral).evaluateWithin ⟨100⟩ none = .ok (.boolean true) ∧
      (binary .lte hugeLiteral hugeLiteral).evaluateWithin ⟨100⟩ none = .ok (.boolean true) ∧
      (binary .eq hugeLiteral hugeLiteral).evaluateWithin ⟨100⟩ none = .ok (.boolean false) ∧
      ¬ ∀ (budget : Budget) (bindings : Bindings) (expr : Expr) (value : Value),
        budget.isSpent = false → expr.evaluateWithin budget bindings = .ok value →
        value.isNaN = false →
          (binary .eq expr expr).evaluateWithin budget bindings = .ok (.boolean true) ∧
          (binary .neq expr expr).evaluateWithin budget bindings = .ok (.boolean false) := by
  intro none
  have hUnequal : (binary .eq hugeLiteral hugeLiteral).evaluateWithin ⟨100⟩ none =
      .ok (.boolean false) := by decide +kernel
  refine ⟨by decide +kernel, by decide +kernel, by decide +kernel, hUnequal, ?_⟩
  intro hReflexive
  have hValue : hugeLiteral.evaluateWithin ⟨100⟩ none = .ok (.number 1e999) := by decide +kernel
  have hNumber : (Value.number 1e999).isNaN = false := by decide +kernel
  obtain ⟨hEqual, -⟩ := hReflexive ⟨100⟩ none hugeLiteral _ (by decide) hValue hNumber
  rw [hUnequal] at hEqual
  cases hEqual

end Expr
end LawnCalibration.Formula
