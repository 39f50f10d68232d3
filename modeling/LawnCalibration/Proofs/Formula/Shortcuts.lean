import LawnCalibration.Formula.Evaluation
import Mathlib.Tactic.Common

/-
Operands that are left alone.

A conjunction that is false and a disjunction that is true by their left operand
leave the right one alone.  Where all operands are evaluated all the same, a
value is that of the formula, and it is missing just where an operand that would
have been left alone has none.
-/

set_option autoImplicit false

namespace LawnCalibration.Formula

/-- Whatever the right operand is, it does not change what the left one decides alone. -/
theorem BinaryOp.apply_of_shortcut {op : BinaryOp} {left value : Value}
    (hShortcut : op.shortcut? left = some value) (right : Value) :
    op.apply left right = .ok value := by
  unfold shortcut? at hShortcut
  split at hShortcut
  · cases hShortcut
    rfl
  · cases hShortcut
    rfl
  · cases hShortcut

namespace Expr

/-- The value of a tree where both operands of every operator are evaluated, the left one first. -/
def evaluateFully (bindings : Bindings) : Expr → Except FormulaError Value
  | .number x => .ok (.number x)
  | .variable name =>
      match bindings name with
      | some x => .ok (.number x)
      | none => .error (.unknownParameter name)
  | .unary op operand =>
      match operand.evaluateFully bindings with
      | .error e => .error e
      | .ok value => op.apply value
  | .binary op left right =>
      match left.evaluateFully bindings with
      | .error e => .error e
      | .ok leftValue =>
          match right.evaluateFully bindings with
          | .error e => .error e
          | .ok rightValue => op.apply leftValue rightValue
  | .ternary condition yes no =>
      match condition.evaluateFully bindings with
      | .error e => .error e
      | .ok value =>
          match value.asBoolean with
          | .error e => .error e
          | .ok true => yes.evaluateFully bindings
          | .ok false => no.evaluateFully bindings

/-- The operands that the evaluation of a tree leaves alone, from left to right. -/
def spared (bindings : Bindings) : Expr → List Expr
  | .number _ => []
  | .variable _ => []
  | .unary _ operand => operand.spared bindings
  | .binary op left right =>
      match left.evaluate bindings with
      | .error _ => left.spared bindings
      | .ok leftValue =>
          if (op.shortcut? leftValue).isSome then left.spared bindings ++ [right]
          else left.spared bindings ++ right.spared bindings
  | .ternary condition yes no =>
      match condition.evaluate bindings with
      | .ok (.boolean true) => condition.spared bindings ++ yes.spared bindings
      | .ok (.boolean false) => condition.spared bindings ++ no.spared bindings
      | _ => condition.spared bindings

def HasFullValue (bindings : Bindings) (expr : Expr) : Prop :=
  ∃ value, expr.evaluateFully bindings = .ok value

variable {bindings : Bindings} {value : Value}

private theorem evaluateFully_unary_iff {op : UnaryOp} {operand : Expr} :
    (unary op operand).evaluateFully bindings = .ok value ↔
      ∃ inner, operand.evaluateFully bindings = .ok inner ∧ op.apply inner = .ok value := by
  rw [evaluateFully]
  cases operand.evaluateFully bindings with
  | error error => simp
  | ok inner => simp

private theorem evaluateFully_binary_iff {op : BinaryOp} {left right : Expr} :
    (binary op left right).evaluateFully bindings = .ok value ↔
      ∃ leftValue rightValue, left.evaluateFully bindings = .ok leftValue ∧
        right.evaluateFully bindings = .ok rightValue ∧
          op.apply leftValue rightValue = .ok value := by
  rw [evaluateFully]
  cases left.evaluateFully bindings with
  | error error => simp
  | ok leftValue =>
      cases right.evaluateFully bindings with
      | error error => simp
      | ok rightValue => simp

private theorem evaluateFully_ternary_iff {condition yes no : Expr} :
    (ternary condition yes no).evaluateFully bindings = .ok value ↔
      (condition.evaluateFully bindings = .ok (.boolean true) ∧
        yes.evaluateFully bindings = .ok value) ∨
      (condition.evaluateFully bindings = .ok (.boolean false) ∧
        no.evaluateFully bindings = .ok value) := by
  rw [evaluateFully]
  cases condition.evaluateFully bindings with
  | error error => simp
  | ok chosen =>
      cases chosen with
      | number x => simp [Value.asBoolean]
      | boolean b => cases b <;> simp [Value.asBoolean]

/-- By induction on the tree.  A shortcut is where the two evaluations part: there the right operand
needs a value, but no matter which. -/
theorem evaluateFully_eq_ok_iff {expr : Expr} {value : Value} :
    expr.evaluateFully bindings = .ok value ↔
      expr.evaluate bindings = .ok value ∧
        ∀ operand ∈ expr.spared bindings, operand.HasFullValue bindings := by
  induction expr generalizing value with
  | number x => simp [evaluateFully, evaluate, spared]
  | «variable» name =>
      cases hNumber : bindings name with
      | none => simp [evaluateFully, evaluate, spared, hNumber]
      | some x => simp [evaluateFully, evaluate, spared, hNumber]
  | unary op operand ih =>
      rw [evaluateFully_unary_iff, evaluate, spared]
      cases hOperand : operand.evaluate bindings with
      | error error => simp [ih, hOperand]
      | ok inner => simp [ih, hOperand, and_comm]
  | binary op left right ihLeft ihRight =>
      rw [evaluateFully_binary_iff, evaluate, spared]
      cases hLeft : left.evaluate bindings with
      | error error => simp [ihLeft, hLeft]
      | ok leftValue =>
          cases hShortcut : op.shortcut? leftValue with
          | some decided =>
              have hApply := BinaryOp.apply_of_shortcut hShortcut
              simp only [ihLeft, hLeft, hShortcut, Option.isSome_some, if_true,
                List.forall_mem_append, List.forall_mem_singleton, Except.ok.injEq]
              constructor
              · rintro ⟨_, rightValue, ⟨rfl, hSpared⟩, hRight, hValue⟩
                rw [hApply rightValue, Except.ok.injEq] at hValue
                exact ⟨hValue, hSpared, rightValue, hRight⟩
              · rintro ⟨rfl, hSpared, rightValue, hRight⟩
                exact ⟨leftValue, rightValue, ⟨rfl, hSpared⟩, hRight, hApply rightValue⟩
          | none =>
              simp only [ihLeft, ihRight, hLeft, hShortcut, Option.isSome_none, Bool.false_eq_true,
                if_false, List.forall_mem_append, Except.ok.injEq]
              cases hRight : right.evaluate bindings with
              | error error => simp
              | ok rightValue =>
                  constructor
                  · rintro ⟨_, _, ⟨rfl, hSpared⟩, ⟨hSame, hOthers⟩, hValue⟩
                    rw [Except.ok.injEq] at hSame
                    rw [← hSame] at hValue
                    exact ⟨hValue, hSpared, hOthers⟩
                  · rintro ⟨hValue, hSpared, hOthers⟩
                    exact ⟨leftValue, rightValue, ⟨rfl, hSpared⟩, ⟨rfl, hOthers⟩, hValue⟩
  | ternary condition yes no ihCondition ihYes ihNo =>
      rw [evaluateFully_ternary_iff, evaluate, spared, ihCondition, ihCondition, ihYes, ihNo]
      cases hCondition : condition.evaluate bindings with
      | error error => simp
      | ok chosen =>
          cases chosen with
          | number x => simp [Value.asBoolean]
          | boolean b =>
              cases b with
              | true =>
                  simp only [Value.asBoolean, List.forall_mem_append, Except.ok.injEq,
                    Value.boolean.injEq, true_and, Bool.true_eq_false, false_and, or_false]
                  exact and_left_comm
              | false =>
                  simp only [Value.asBoolean, List.forall_mem_append, Except.ok.injEq,
                    Value.boolean.injEq, true_and, Bool.false_eq_true, false_and, false_or]
                  exact and_left_comm

/-- As long as there is time, a value that the evaluation of all operands finds is the value of the
formula, so that this evaluation fails wherever the formula does.  It finds a value just where the
formula has one and every operand that is left alone would have a value as well. -/
theorem full_evaluation_agrees {budget : Budget} (hTime : budget.isSpent = false) (expr : Expr)
    (bindings : Bindings) :
    (∀ value, expr.evaluateFully bindings = .ok value →
      expr.evaluateWithin budget bindings = .ok value) ∧
    (∀ error, expr.evaluateWithin budget bindings = .error error →
      ∃ cause, expr.evaluateFully bindings = .error cause) ∧
    ∀ value, expr.evaluateFully bindings = .ok value ↔
      expr.evaluateWithin budget bindings = .ok value ∧
        ∀ operand ∈ expr.spared bindings, operand.HasFullValue bindings := by
  have hWithin : expr.evaluateWithin budget bindings = expr.evaluate bindings := by
    rw [evaluateWithin, hTime, if_neg Bool.false_ne_true]
  rw [hWithin]
  refine ⟨?_, ?_, ?_⟩
  · intro value hValue
    exact (evaluateFully_eq_ok_iff.1 hValue).1
  · intro error hFails
    cases hFull : expr.evaluateFully bindings with
    | error cause => exact ⟨cause, rfl⟩
    | ok value =>
        have hValue := (evaluateFully_eq_ok_iff.1 hFull).1
        rw [hFails] at hValue
        cases hValue
  · exact fun value => evaluateFully_eq_ok_iff

def smallRate : Expr :=
  .binary .or (.binary .lt (.variable "amount") (.number 1.0))
    (.binary .lt (.binary .div (.variable "amount") (.variable "area")) (.number 2.0))

/-- A small amount is judged without its rate.  On some area the rate would have changed nothing;
on none it would have left no judgement. -/
theorem smallRate_decided_by_amount :
    let onSome : Bindings := fun name => if name = "amount" then some 0.5 else some 4.0
    let onNone : Bindings := fun name => if name = "amount" then some 0.5 else some 0.0
    (⟨100⟩ : Budget).isSpent = false ∧
      smallRate.evaluateFully onSome = .ok (.boolean true) ∧
      smallRate.evaluateWithin ⟨100⟩ onSome = .ok (.boolean true) ∧
      smallRate.evaluateFully onNone = .error .divisionByZero ∧
      smallRate.evaluateWithin ⟨100⟩ onNone = .ok (.boolean true) ∧
      ¬ ∀ operand ∈ smallRate.spared onNone, operand.HasFullValue onNone := by
  intro onSome onNone
  have hTime : (⟨100⟩ : Budget).isSpent = false := by decide
  have hFull : smallRate.evaluateFully onSome = .ok (.boolean true) := by decide +kernel
  have hFails : smallRate.evaluateFully onNone = .error .divisionByZero := by decide +kernel
  have hValue : smallRate.evaluateWithin ⟨100⟩ onNone = .ok (.boolean true) := by decide +kernel
  refine ⟨hTime, hFull, (full_evaluation_agrees hTime smallRate onSome).1 _ hFull, hFails, hValue, ?_⟩
  intro hSpared
  have hBoth := ((full_evaluation_agrees hTime smallRate onNone).2.2 _).2 ⟨hValue, hSpared⟩
  rw [hFails] at hBoth
  cases hBoth

end Expr
end LawnCalibration.Formula
