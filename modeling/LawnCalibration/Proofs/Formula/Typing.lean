import LawnCalibration.Proofs.Formula.Failures

/-
Types of formulas.

Where the operands of every operator have the types that it takes, a tree has a
type.  Whatever numbers its parameters stand for, its value is then of that
type, unless a division by zero is met on the way to it.
-/

set_option autoImplicit false

namespace LawnCalibration.Formula

def UnaryOp.type : UnaryOp → ValueType
  | .neg => .number
  | .not => .boolean

inductive BinaryOp.Joins : BinaryOp → ValueType → ValueType → Prop
  | add : Joins .add .number .number
  | sub : Joins .sub .number .number
  | mul : Joins .mul .number .number
  | div : Joins .div .number .number
  | gt : Joins .gt .number .boolean
  | lt : Joins .lt .number .boolean
  | gte : Joins .gte .number .boolean
  | lte : Joins .lte .number .boolean
  | eq (operands : ValueType) : Joins .eq operands .boolean
  | neq (operands : ValueType) : Joins .neq operands .boolean
  | and : Joins .and .boolean .boolean
  | or : Joins .or .boolean .boolean

/-- A parameter stands for a number; the branches of a condition have one type. -/
inductive Expr.HasType : Expr → ValueType → Prop
  | number (value : Float) : HasType (.number value) .number
  | parameter (name : String) : HasType (.variable name) .number
  | unary {op : UnaryOp} {operand : Expr} (hOperand : HasType operand op.type) :
      HasType (.unary op operand) op.type
  | binary {op : BinaryOp} {left right : Expr} {operands result : ValueType}
      (hOp : op.Joins operands result) (hLeft : HasType left operands)
      (hRight : HasType right operands) : HasType (.binary op left right) result
  | ternary {condition yes no : Expr} {type : ValueType} (hCondition : HasType condition .boolean)
      (hYes : HasType yes type) (hNo : HasType no type) : HasType (.ternary condition yes no) type

/-- An outcome is a value of some type, unless it is a division by zero. -/
def SafeOutcome (type : ValueType) (outcome : Except FormulaError Value) : Prop :=
  (∃ value, outcome = .ok value ∧ value.type = type) ∨ outcome = .error .divisionByZero

private theorem safeOutcome_ok {value : Value} : SafeOutcome value.type (.ok value) :=
  .inl ⟨value, rfl, rfl⟩

theorem Value.exists_number {value : Value} (hType : value.type = .number) :
    ∃ x, value = .number x := by
  cases value with
  | number x => exact ⟨x, rfl⟩
  | boolean b => cases hType

theorem Value.exists_boolean {value : Value} (hType : value.type = .boolean) :
    ∃ b, value = .boolean b := by
  cases value with
  | number x => cases hType
  | boolean b => exact ⟨b, rfl⟩

theorem UnaryOp.safe_apply {op : UnaryOp} {operand : Value} (hOperand : operand.type = op.type) :
    SafeOutcome op.type (op.apply operand) := by
  cases op with
  | neg =>
      obtain ⟨x, rfl⟩ := Value.exists_number hOperand
      exact safeOutcome_ok
  | not =>
      obtain ⟨b, rfl⟩ := Value.exists_boolean hOperand
      exact safeOutcome_ok

namespace BinaryOp

variable {op : BinaryOp} {operands result : ValueType} {left right : Value}

/-- Division alone has no result for some numbers. -/
private theorem safe_apply_numbers (hOp : op.Joins .number result) (x y : Float) :
    SafeOutcome result (op.apply (.number x) (.number y)) := by
  cases hOp with
  | div =>
      by_cases hZero : (y == 0.0) = true
      · simp only [apply, onNumbers, Value.asNumber, if_pos hZero]
        exact .inr rfl
      · simp only [apply, onNumbers, Value.asNumber, if_neg hZero]
        exact safeOutcome_ok
  | _ => exact safeOutcome_ok

private theorem safe_apply_booleans (hOp : op.Joins .boolean result) (a b : Bool) :
    SafeOutcome result (op.apply (.boolean a) (.boolean b)) := by
  cases hOp with
  | eq => exact safeOutcome_ok
  | neq => exact safeOutcome_ok
  | and => cases a <;> exact safeOutcome_ok
  | or => cases a <;> exact safeOutcome_ok

theorem safe_apply (hOp : op.Joins operands result) (hLeft : left.type = operands)
    (hRight : right.type = operands) : SafeOutcome result (op.apply left right) := by
  cases operands with
  | number =>
      obtain ⟨x, rfl⟩ := Value.exists_number hLeft
      obtain ⟨y, rfl⟩ := Value.exists_number hRight
      exact safe_apply_numbers hOp x y
  | boolean =>
      obtain ⟨a, rfl⟩ := Value.exists_boolean hLeft
      obtain ⟨b, rfl⟩ := Value.exists_boolean hRight
      exact safe_apply_booleans hOp a b

/-- What the left operand decides alone is of the type that the operator gives. -/
private theorem type_of_shortcut {value : Value} (hOp : op.Joins operands result)
    (hShortcut : op.shortcut? left = some value) : value.type = result := by
  unfold shortcut? at hShortcut
  split at hShortcut
  · cases hShortcut
    cases hOp
    rfl
  · cases hShortcut
    cases hOp
    rfl
  · cases hShortcut

end BinaryOp

/-- By induction on the typing: an operator meets operands of the types that it takes, since a tree
of a type has a value of that type or none at all. -/
theorem Expr.safe_evaluate {expr : Expr} {type : ValueType} {bindings : Bindings}
    (hType : expr.HasType type)
    (hBound : ∀ name ∈ expr.occurrences, (bindings name).isSome = true) :
    SafeOutcome type (expr.evaluate bindings) := by
  induction hType with
  | number value => exact safeOutcome_ok
  | parameter name =>
      obtain ⟨x, hNumber⟩ := Option.isSome_iff_exists.1 (hBound name (List.mem_singleton_self name))
      simp only [evaluate, hNumber]
      exact safeOutcome_ok
  | unary hOperand ih =>
      rcases ih hBound with ⟨value, hValue, hOperandType⟩ | hZero
      · simp only [evaluate, hValue]
        exact UnaryOp.safe_apply hOperandType
      · simp only [evaluate, hZero]
        exact .inr rfl
  | binary hOp hLeft hRight ihLeft ihRight =>
      simp only [occurrences, List.forall_mem_append] at hBound
      rcases ihLeft hBound.1 with ⟨leftValue, hLeftValue, hLeftType⟩ | hZero
      · simp only [evaluate, hLeftValue]
        split
        · rename_i value hShortcut
          exact .inl ⟨value, rfl, BinaryOp.type_of_shortcut hOp hShortcut⟩
        · rcases ihRight hBound.2 with ⟨rightValue, hRightValue, hRightType⟩ | hZero
          · simp only [hRightValue]
            exact BinaryOp.safe_apply hOp hLeftType hRightType
          · simp only [hZero]
            exact .inr rfl
      · simp only [evaluate, hZero]
        exact .inr rfl
  | ternary hCondition hYes hNo ihCondition ihYes ihNo =>
      simp only [occurrences, List.forall_mem_append] at hBound
      obtain ⟨⟨hInCondition, hInYes⟩, hInNo⟩ := hBound
      rcases ihCondition hInCondition with ⟨value, hValue, hConditionType⟩ | hZero
      · obtain ⟨chosen, rfl⟩ := Value.exists_boolean hConditionType
        simp only [evaluate, hValue, Value.asBoolean]
        cases chosen with
        | true => exact ihYes hInYes
        | false => exact ihNo hInNo
      · simp only [evaluate, hZero]
        exact .inr rfl

section Formulas

variable {budget : Budget} {bindings : Bindings}

theorem Expr.safe_evaluateWithin {expr : Expr} {type : ValueType} (hTime : budget.isSpent = false)
    (hType : expr.HasType type) (hBound : ∀ name ∈ expr.names, (bindings name).isSome = true) :
    SafeOutcome type (expr.evaluateWithin budget bindings) := by
  rw [evaluateWithin, hTime, if_neg Bool.false_ne_true]
  exact safe_evaluate hType fun name hStands => hBound name (mem_names_iff.2 hStands)

/-- As long as there is time and all parameters of a tree stand for numbers, a tree of some type has
a value of that type, unless a division by zero is met.  A formula that is a number by its type then
denotes a finite number, unless it divides by zero or its value is not finite. -/
theorem typed_formula_has_value (hTime : budget.isSpent = false) :
    (∀ (expr : Expr) (type : ValueType), expr.HasType type →
      (∀ name ∈ expr.names, (bindings name).isSome = true) →
        (∃ value, expr.evaluateWithin budget bindings = .ok value ∧ value.type = type) ∨
          expr.evaluateWithin budget bindings = .error .divisionByZero) ∧
    ∀ (text : String) (expr : Expr), parse text = .ok expr → expr.HasType .number →
      (∀ name ∈ expr.names, (bindings name).isSome = true) →
        (∃ x, evaluate budget text bindings = .ok x ∧ x.isFinite = true) ∨
          evaluate budget text bindings = .error .divisionByZero ∨
          evaluate budget text bindings = .error .notFinite := by
  refine ⟨fun expr type hType hBound => Expr.safe_evaluateWithin hTime hType hBound, ?_⟩
  intro text expr hParse hType hBound
  rcases Expr.safe_evaluateWithin hTime hType hBound with ⟨value, hValue, hNumber⟩ | hZero
  · obtain ⟨x, rfl⟩ := Value.exists_number hNumber
    by_cases hFinite : x.isFinite = true
    · refine .inl ⟨x, ?_, hFinite⟩
      simp only [evaluate, valueOf, hParse, hValue, Value.asNumber, if_pos hFinite]
    · refine .inr (.inr ?_)
      simp only [evaluate, valueOf, hParse, hValue, Value.asNumber, if_neg hFinite]
  · refine .inr (.inl ?_)
    simp only [evaluate, valueOf, hParse, hZero]

def guardedRate : Expr :=
  .ternary
    (.binary .or (.unary .not (.binary .eq (.variable "area") (.number 0.0)))
      (.binary .gt (.variable "amount") (.number 1.0)))
    (.binary .div (.variable "amount") (.variable "area"))
    (.unary .neg (.variable "amount"))

/-- That formula is a number by its type; without an area it is the opposite of an amount that is
not too large, and else it divides by zero. -/
theorem guardedRate_has_value :
    let text := "not (area == 0) or amount > 1 ? amount / area : -amount"
    let bindings : Bindings := fun name => if name = "amount" then some 0.5 else some 0.0
    (⟨100⟩ : Budget).isSpent = false ∧ parse text = .ok guardedRate ∧
      guardedRate.HasType .number ∧ guardedRate.names = ["area", "amount"] ∧
      (∀ name ∈ guardedRate.names, (bindings name).isSome = true) ∧
      ((∃ value, guardedRate.evaluateWithin ⟨100⟩ bindings = .ok value ∧ value.type = .number) ∨
        guardedRate.evaluateWithin ⟨100⟩ bindings = .error .divisionByZero) ∧
      ((∃ x, evaluate ⟨100⟩ text bindings = .ok x ∧ x.isFinite = true) ∨
        evaluate ⟨100⟩ text bindings = .error .divisionByZero ∨
        evaluate ⟨100⟩ text bindings = .error .notFinite) := by
  intro text bindings
  have hTime : (⟨100⟩ : Budget).isSpent = false := by decide
  have hParse : parse text = .ok guardedRate := by decide +kernel
  have hGuard : (Expr.binary .or (.unary .not (.binary .eq (.variable "area") (.number 0.0)))
      (.binary .gt (.variable "amount") (.number 1.0))).HasType .boolean := by
    have hNoArea : (Expr.binary .eq (.variable "area") (.number 0.0)).HasType .boolean :=
      .binary (.eq .number) (.parameter "area") (.number 0.0)
    exact .binary .or (.unary hNoArea) (.binary .gt (.parameter "amount") (.number 1.0))
  have hType : guardedRate.HasType .number :=
    .ternary hGuard (.binary .div (.parameter "amount") (.parameter "area"))
      (.unary (.parameter "amount"))
  have hBound : ∀ name ∈ guardedRate.names, (bindings name).isSome = true := by
    intro name _
    by_cases hAmount : name = "amount"
    · simp only [bindings, if_pos hAmount, Option.isSome_some]
    · simp only [bindings, if_neg hAmount, Option.isSome_some]
  obtain ⟨hTrees, hTexts⟩ := @typed_formula_has_value ⟨100⟩ bindings hTime
  exact ⟨hTime, hParse, hType, by decide, hBound, hTrees guardedRate .number hType hBound,
    hTexts text guardedRate hParse hType hBound⟩

end Formulas
end LawnCalibration.Formula
