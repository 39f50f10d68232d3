import LawnCalibration.Proofs.Formula.Failures
import Mathlib.Data.List.Basic

/-
The names of a formula, and what its value depends on.

The names are gathered on one way through the tree, each where it stands for the
first time.  Evaluation asks for the numbers of these names and of no others.
-/

set_option autoImplicit false

namespace LawnCalibration.Formula

structure FirstSeen (names seen : List String) : Prop where
  mem_iff : ∀ name, name ∈ names ↔ name ∈ seen
  ordered : names.Pairwise fun earlier later => seen.idxOf earlier < seen.idxOf later

namespace FirstSeen

variable {names seen : List String} {name : String}

theorem nil : FirstSeen [] [] where
  mem_iff := fun _ => Iff.rfl
  ordered := .nil

private theorem nodup (hNames : FirstSeen names seen) : names.Nodup := by
  refine hNames.ordered.imp ?_
  intro earlier later hBefore hSame
  rw [hSame] at hBefore
  exact Nat.lt_irrefl _ hBefore

/-- What is seen later does not move what has been seen. -/
private theorem ordered_append (hNames : FirstSeen names seen) (later : List String) :
    names.Pairwise fun first second =>
      (seen ++ later).idxOf first < (seen ++ later).idxOf second := by
  refine hNames.ordered.imp_of_mem ?_
  intro first second hFirst hSecond hBefore
  rw [List.idxOf_append_of_mem ((hNames.mem_iff first).1 hFirst),
    List.idxOf_append_of_mem ((hNames.mem_iff second).1 hSecond)]
  exact hBefore

private theorem again (hNames : FirstSeen names seen) (hListed : name ∈ names) :
    FirstSeen names (seen ++ [name]) := by
  constructor
  · intro other
    rw [List.mem_append, List.mem_singleton, hNames.mem_iff]
    constructor
    · exact Or.inl
    · rintro (hSeen | rfl)
      · exact hSeen
      · exact (hNames.mem_iff other).1 hListed
  · exact hNames.ordered_append [name]

theorem new (hNames : FirstSeen names seen) (hNew : name ∉ names) :
    FirstSeen (names ++ [name]) (seen ++ [name]) := by
  have hUnseen : name ∉ seen := fun hSeen => hNew ((hNames.mem_iff name).2 hSeen)
  constructor
  · intro other
    rw [List.mem_append, List.mem_append, hNames.mem_iff]
  · rw [List.pairwise_append]
    refine ⟨hNames.ordered_append [name], List.pairwise_singleton _ name, ?_⟩
    intro earlier hEarlier last hLast
    have hSeen : earlier ∈ seen := (hNames.mem_iff earlier).1 hEarlier
    rw [List.mem_singleton.1 hLast, List.idxOf_append_of_mem hSeen,
      List.idxOf_append_of_notMem hUnseen]
    exact Nat.lt_add_right _ (List.idxOf_lt_length_of_mem hSeen)

end FirstSeen

namespace Expr

/-- By induction on the tree, whatever has been seen before it: its names are added where they
stand for the first time. -/
private theorem firstSeen_addVariables {expr : Expr} {names seen : List String}
    (hNames : FirstSeen names seen) :
    FirstSeen (expr.addVariables names) (seen ++ expr.occurrences) := by
  induction expr generalizing names seen with
  | number value =>
      rw [occurrences, List.append_nil]
      exact hNames
  | «variable» name =>
      by_cases hListed : name ∈ names
      · rw [addVariables, if_pos hListed]
        exact hNames.again hListed
      · rw [addVariables, if_neg hListed]
        exact hNames.new hListed
  | unary op operand ih => exact ih hNames
  | binary op left right ihLeft ihRight =>
      rw [occurrences, ← List.append_assoc]
      exact ihRight (ihLeft hNames)
  | ternary condition yes no ihCondition ihYes ihNo =>
      rw [occurrences, ← List.append_assoc, ← List.append_assoc]
      exact ihNo (ihYes (ihCondition hNames))

theorem firstSeen_names (expr : Expr) : FirstSeen expr.names expr.occurrences :=
  firstSeen_addVariables FirstSeen.nil

/-- By induction on the tree: the parts that are evaluated are the same, and so are their values. -/
theorem evaluate_congr {expr : Expr} {bindings others : Bindings}
    (hSame : ∀ name ∈ expr.occurrences, bindings name = others name) :
    expr.evaluate bindings = expr.evaluate others := by
  induction expr with
  | number value => rfl
  | «variable» name => rw [evaluate, evaluate, hSame name (List.mem_singleton_self name)]
  | unary op operand ih => rw [evaluate, evaluate, ih hSame]
  | binary op left right ihLeft ihRight =>
      rw [occurrences, List.forall_mem_append] at hSame
      rw [evaluate, evaluate, ihLeft hSame.1, ihRight hSame.2]
  | ternary condition yes no ihCondition ihYes ihNo =>
      rw [occurrences, List.forall_mem_append, List.forall_mem_append] at hSame
      obtain ⟨⟨hCondition, hYes⟩, hNo⟩ := hSame
      rw [evaluate, evaluate, ihCondition hCondition, ihYes hYes, ihNo hNo]

/-- A name without a number is missed only where it stands in the tree. -/
theorem unbound_of_evaluate {expr : Expr} {bindings : Bindings} {name : String}
    (hFails : expr.evaluate bindings = .error (.unknownParameter name)) :
    name ∈ expr.occurrences ∧ bindings name = none := by
  cases failure_of_evaluate hFails with
  | unbound hStands hUnbound => exact ⟨hStands, hUnbound⟩
  | operator hOperator => cases hOperator

/-- The names of a formula are those that stand in its tree, each once and in the order of first
occurrence.  Under bindings that agree on them the formula has the same value or the same failure,
and a name that is missed is one of them without a number. -/
theorem names_decide_evaluation (expr : Expr) :
    (expr.names.Nodup ∧ FirstSeen expr.names expr.occurrences) ∧
    (∀ (budget : Budget) (bindings others : Bindings),
      (∀ name ∈ expr.names, bindings name = others name) →
        expr.evaluateWithin budget bindings = expr.evaluateWithin budget others) ∧
    ∀ (budget : Budget) (bindings : Bindings) (name : String),
      expr.evaluateWithin budget bindings = .error (.unknownParameter name) →
        name ∈ expr.names ∧ bindings name = none := by
  refine ⟨⟨(firstSeen_names expr).nodup, firstSeen_names expr⟩, ?_, ?_⟩
  · intro budget bindings others hSame
    have hTrees : expr.evaluate bindings = expr.evaluate others :=
      evaluate_congr fun name hStands => hSame name (mem_names_iff.2 hStands)
    rw [evaluateWithin, evaluateWithin, hTrees]
  · intro budget bindings name hFails
    rw [evaluateWithin] at hFails
    cases hTime : budget.isSpent with
    | true =>
        rw [hTime, if_pos rfl] at hFails
        cases hFails
    | false =>
        rw [hTime, if_neg Bool.false_ne_true] at hFails
        obtain ⟨hStands, hUnbound⟩ := unbound_of_evaluate hFails
        exact ⟨mem_names_iff.2 hStands, hUnbound⟩

def latestArea : Expr :=
  .ternary (.binary .gt (.variable "area") (.number 0.0))
    (.binary .sub (.variable "area") (.variable "margin"))
    (.variable "previous")

/-- The margin is missed, also where a name that does not stand in the formula has a number. -/
theorem latestArea_misses_margin :
    let bindings : Bindings := fun name => if name = "area" then some 2.0 else none
    let others : Bindings := fun name =>
      if name = "area" then some 2.0 else if name = "amount" then some 0.5 else none
    latestArea.names = ["area", "margin", "previous"] ∧
      (∀ name ∈ latestArea.names, bindings name = others name) ∧
      latestArea.evaluateWithin ⟨100⟩ bindings = latestArea.evaluateWithin ⟨100⟩ others ∧
      latestArea.evaluateWithin ⟨100⟩ others = .error (.unknownParameter "margin") ∧
      "margin" ∈ latestArea.names ∧ others "margin" = none := by
  intro bindings others
  have hNames : latestArea.names = ["area", "margin", "previous"] := by decide
  have hSame : ∀ name ∈ latestArea.names, bindings name = others name := by
    rw [hNames]
    decide
  have hFails : latestArea.evaluateWithin ⟨100⟩ others = .error (.unknownParameter "margin") := by
    decide +kernel
  obtain ⟨-, hAgree, hMissed⟩ := names_decide_evaluation latestArea
  exact ⟨hNames, hSame, hAgree ⟨100⟩ bindings others hSame, hFails,
    hMissed ⟨100⟩ others "margin" hFails⟩

end Expr
end LawnCalibration.Formula
