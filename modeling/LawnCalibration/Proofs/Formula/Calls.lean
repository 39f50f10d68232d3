import LawnCalibration.Proofs.Formula.Consumption

/-
The calls that the readers of formulas make.

What a reader does is a plan: it calls another reader and goes on with what that
one read, until it is done or fails.  A chain of operands is read in rounds, one
for each operator and one that finds none; a round counts as a call.  Each call
works on less of the text than the one that makes it, or on as much of it for a
category that binds tighter, so that every run of calls ends.
-/

set_option autoImplicit false

namespace LawnCalibration.Formula

open Text
open Grammar

inductive Task where
  | phrase (category : Category)
  /-- Further operands of a chain behind those that are joined already. -/
  | rounds (level : Level) (joined : Expr)

structure Call where
  task : Task
  text : List Char

abbrev Outcome : Type :=
  Option (Expr × List Char)

def Reading.outcome {text : List Char} : Reading text → Outcome
  | .ok front => some (front.value, front.rest)
  | .error _ => none

theorem outcome_eq_some_iff {text rest : List Char} {reading : Reading text} {tree : Expr} :
    reading.outcome = some (tree, rest) ↔ Yields reading tree rest := by
  cases reading with
  | error stop => simp [Reading.outcome, not_yields_error]
  | ok front => simp [Reading.outcome, yields_ok_iff]

/-- The operands joined so far, with the text that is left; a reader of chains also needs to know
a text that ends so. -/
def joinedFront (joined : Expr) (text : List Char) : Front Expr (' ' :: text) where
  value := joined
  rest := text
  suffix := List.suffix_cons ' ' text
  shorter := Nat.lt_succ_self _

def Call.outcome : Call → Outcome
  | ⟨.phrase category, text⟩ => (category.read text).outcome
  | ⟨.rounds level joined, text⟩ => (readChain level (' ' :: text) (joinedFront joined text)).outcome

inductive Plan where
  | fail
  | done (tree : Expr) (rest : List Char)
  | ask (call : Call) (next : Expr → List Char → Plan)

namespace Plan

def run (answer : Call → Outcome) : Plan → Outcome
  | .fail => none
  | .done tree rest => some (tree, rest)
  | .ask call next =>
      match answer call with
      | none => none
      | some (tree, rest) => (next tree rest).run answer

def calls (answer : Call → Outcome) : Plan → List Call
  | .fail => []
  | .done _ _ => []
  | .ask call next =>
      call ::
        match answer call with
        | none => []
        | some (tree, rest) => (next tree rest).calls answer

end Plan

def Call.plan : Call → Plan
  | ⟨.phrase .expr, text⟩ =>
      .ask ⟨.phrase (.chain .disjunction), text⟩ fun condition after =>
        match skipSpace after with
        | '?' :: afterMark =>
            .ask ⟨.phrase .expr, skipSpace afterMark⟩ fun yes afterYes =>
              match skipSpace afterYes with
              | ':' :: afterColon =>
                  .ask ⟨.phrase .expr, skipSpace afterColon⟩ fun no rest =>
                    .done (.ternary condition yes no) rest
              | _ => .fail
        | rest => .done condition rest
  | ⟨.phrase (.chain level), text⟩ =>
      .ask ⟨.phrase (operand level), text⟩ fun first after => .ask ⟨.rounds level first, after⟩ .done
  | ⟨.rounds level joined, text⟩ =>
      match level.symbol? (skipSpace text) with
      | none => .done joined text
      | some (op, after) =>
          .ask ⟨.phrase (operand level), skipSpace after⟩ fun right rest =>
            .ask ⟨.rounds level (.binary op joined right), rest⟩ .done
  | ⟨.phrase .unary, text⟩ =>
      match skipSpace text with
      | '-' :: after =>
          .ask ⟨.phrase .unary, after⟩ fun operand rest => .done (.unary .neg operand) rest
      | front =>
          match dropNot front with
          | some after =>
              .ask ⟨.phrase .unary, after⟩ fun operand rest => .done (.unary .not operand) rest
          | none => .ask ⟨.phrase .primary, front⟩ .done
  | ⟨.phrase .primary, text⟩ =>
      match skipSpace text with
      | '(' :: inside =>
          .ask ⟨.phrase .expr, skipSpace inside⟩ fun inner after =>
            match skipSpace after with
            | ')' :: rest => .done inner rest
            | _ => .fail
      | front =>
          match (readAtom front).outcome with
          | some (tree, rest) => .done tree rest
          | none => .fail

namespace Plan

variable {answer : Call → Outcome} {call inner : Call} {next : Expr → List Char → Plan}
  {result : Expr × List Char}

private theorem run_ask_eq_some_iff :
    (ask call next).run answer = some result ↔
      ∃ tree rest, answer call = some (tree, rest) ∧ (next tree rest).run answer = some result := by
  rw [run]
  cases answer call with
  | none => exact iff_of_false nofun (by rintro ⟨_, _, hNone, -⟩; cases hNone)
  | some found =>
      constructor
      · exact fun hRun => ⟨found.1, found.2, rfl, hRun⟩
      · rintro ⟨tree, rest, hFound, hRun⟩
        cases hFound
        exact hRun

private theorem run_ask_done : (ask call .done).run answer = answer call := by
  rw [run]
  cases answer call with
  | none => rfl
  | some found => rfl

theorem mem_calls_ask_iff :
    inner ∈ (ask call next).calls answer ↔
      inner = call ∨
        ∃ tree rest, answer call = some (tree, rest) ∧ inner ∈ (next tree rest).calls answer := by
  rw [calls, List.mem_cons]
  refine or_congr_right ?_
  cases answer call with
  | none => exact iff_of_false nofun (by rintro ⟨_, _, hNone, -⟩; cases hNone)
  | some found =>
      constructor
      · exact fun hMember => ⟨found.1, found.2, rfl, hMember⟩
      · rintro ⟨tree, rest, hFound, hMember⟩
        cases hFound
        exact hMember

end Plan

/-! ### Every reader follows its plan -/

private theorem outcome_phrase_iff {category : Category} {text rest : List Char} {tree : Expr} :
    Call.outcome ⟨.phrase category, text⟩ = some (tree, rest) ↔ Yields (category.read text) tree rest :=
  outcome_eq_some_iff

private theorem follows_expr (text : List Char) :
    Call.outcome ⟨.phrase .expr, text⟩ = (Call.plan ⟨.phrase .expr, text⟩).run Call.outcome := by
  refine Option.ext fun ⟨tree, rest⟩ => ?_
  rw [outcome_phrase_iff]
  refine yields_readExpr_iff.trans ?_
  rw [Call.plan, Plan.run_ask_eq_some_iff]
  refine exists_congr fun condition => exists_congr fun after =>
    and_congr (@outcome_phrase_iff (.chain .disjunction) _ _ _).symm ?_
  split
  next afterMark hMark =>
    rw [Plan.run_ask_eq_some_iff]
    constructor
    · rintro (⟨hNone, -⟩ | ⟨_, yes, afterYes, afterColon, no, hText, hYes, hColon, hNo, rfl⟩)
      · exact absurd (congrArg List.head? hMark) hNone
      · cases hMark.symm.trans hText
        refine ⟨yes, afterYes, outcome_phrase_iff.2 hYes, ?_⟩
        rw [hColon]
        exact Plan.run_ask_eq_some_iff.2 ⟨no, rest, outcome_phrase_iff.2 hNo, rfl⟩
    · rintro ⟨yes, afterYes, hYes, hRun⟩
      split at hRun
      next afterColon hColon =>
        obtain ⟨no, _, hNo, hDone⟩ := Plan.run_ask_eq_some_iff.1 hRun
        cases hDone
        exact .inr ⟨afterMark, yes, afterYes, afterColon, no, hMark, outcome_phrase_iff.1 hYes,
          hColon, outcome_phrase_iff.1 hNo, rfl⟩
      next => cases hRun
  next hMark =>
    have hHead : (skipSpace after).head? ≠ some '?' := head?_ne_of_not_cons hMark
    constructor
    · rintro (⟨-, rfl, rfl⟩ | ⟨afterMark, _, _, _, _, hText, -⟩)
      · rfl
      · exact absurd hText (hMark afterMark)
    · intro hRun
      cases hRun
      exact .inl ⟨hHead, rfl, rfl⟩

private theorem outcome_operand (level : Level) (text : List Char) :
    Call.outcome ⟨.phrase (operand level), text⟩ = (readOperand level text).outcome :=
  congrArg Reading.outcome (read_operand level text)

private theorem readChain_fails {level : Level} {text : List Char} {left : Front Expr text}
    {op : Front BinaryOp left.rest} {stop : Stop op.rest} (hOp : level.operator? left.rest = some op)
    (hRight : readOperand level op.rest = .error stop) : (readChain level text left).outcome = none := by
  rw [readChain, hOp]
  simp only [hRight]
  rfl

/-- The reader of chains does not look at the text in front of what is left. -/
private theorem outcome_readChain_congr {level : Level} {text other : List Char}
    {left : Front Expr text}
    {found : Front Expr other} (hValue : left.value = found.value) (hRest : left.rest = found.rest) :
    (readChain level text left).outcome = (readChain level other found).outcome := by
  induction hLength : left.rest.length using Nat.strong_induction_on generalizing left found with
  | _ size ih =>
      obtain ⟨value, rest, hSuffix, hShorter⟩ := left
      obtain ⟨_, _, hSuffix', hShorter'⟩ := found
      cases hValue
      cases hRest
      cases hOp : level.operator? rest with
      | none =>
          rw [readChain_end hOp, readChain_end hOp]
          rfl
      | some op =>
          cases hRight : readOperand level op.rest with
          | error stop =>
              rw [@readChain_fails level text ⟨value, rest, hSuffix, hShorter⟩ op stop hOp hRight,
                @readChain_fails level other ⟨value, rest, hSuffix', hShorter'⟩ op stop hOp hRight]
          | ok right =>
              rw [@readChain_step level text ⟨value, rest, hSuffix, hShorter⟩ op right hOp hRight,
                @readChain_step level other ⟨value, rest, hSuffix', hShorter'⟩ op right hOp hRight]
              exact ih _ (hLength ▸ right.shorter.trans op.shorter) rfl rfl rfl

private theorem outcome_rounds {level : Level} {text : List Char} (left : Front Expr text) :
    Call.outcome ⟨.rounds level left.value, left.rest⟩ = (readChain level text left).outcome :=
  outcome_readChain_congr rfl rfl

private theorem follows_chain (level : Level) (text : List Char) :
    Call.outcome ⟨.phrase (.chain level), text⟩ =
      (Call.plan ⟨.phrase (.chain level), text⟩).run Call.outcome := by
  change (readLevel level text).outcome = _
  rw [Call.plan, Plan.run, outcome_operand]
  cases hFirst : readOperand level text with
  | error stop =>
      rw [readLevel, hFirst]
      rfl
  | ok first =>
      rw [readLevel_eq hFirst, ← outcome_rounds]
      exact Plan.run_ask_done.symm

private theorem follows_rounds (level : Level) (joined : Expr) (text : List Char) :
    Call.outcome ⟨.rounds level joined, text⟩ =
      (Call.plan ⟨.rounds level joined, text⟩).run Call.outcome := by
  change (readChain level (' ' :: text) (joinedFront joined text)).outcome = _
  rw [Call.plan]
  cases hOp : level.operator? text with
  | none =>
      rw [readChain_end hOp, operator?_eq_none_iff.1 hOp]
      rfl
  | some op =>
      obtain ⟨after, hSymbol, hAfter⟩ := operator?_eq_some_iff.1 hOp
      rw [hSymbol]
      dsimp only
      rw [← hAfter, Plan.run, outcome_operand]
      cases hRight : readOperand level op.rest with
      | error stop => exact readChain_fails hOp hRight
      | ok right =>
          rw [@readChain_step level _ (joinedFront joined text) op right hOp hRight, ← outcome_rounds]
          exact Plan.run_ask_done.symm

private theorem follows_unary (text : List Char) :
    Call.outcome ⟨.phrase .unary, text⟩ = (Call.plan ⟨.phrase .unary, text⟩).run Call.outcome := by
  refine Option.ext fun ⟨tree, rest⟩ => ?_
  rw [outcome_phrase_iff]
  refine yields_readUnary_iff.trans ?_
  rw [Call.plan]
  split
  next after hMinus =>
    rw [Plan.run_ask_eq_some_iff]
    constructor
    · rintro (⟨_, operand, hText, hOperand, rfl⟩ | ⟨hNone, -⟩)
      · cases hMinus.symm.trans hText
        exact ⟨operand, rest, outcome_phrase_iff.2 hOperand, rfl⟩
      · exact absurd (congrArg List.head? hMinus) hNone
    · rintro ⟨operand, _, hOperand, hDone⟩
      cases hDone
      exact .inl ⟨after, operand, hMinus, outcome_phrase_iff.1 hOperand, rfl⟩
  next hMinus =>
    have hHead : (skipSpace text).head? ≠ some '-' := head?_ne_of_not_cons hMinus
    split
    next after hNot =>
      rw [Plan.run_ask_eq_some_iff]
      constructor
      · rintro (⟨after, _, hText, -⟩ | ⟨-, ⟨_, operand, hText, hOperand, rfl⟩ | ⟨hNone, -⟩⟩)
        · exact absurd hText (hMinus after)
        · cases hNot.symm.trans hText
          exact ⟨operand, rest, outcome_phrase_iff.2 hOperand, rfl⟩
        · cases hNot.symm.trans hNone
      · rintro ⟨operand, _, hOperand, hDone⟩
        cases hDone
        exact .inr ⟨hHead, .inl ⟨after, operand, hNot, outcome_phrase_iff.1 hOperand, rfl⟩⟩
    next hNot =>
      have hPrimary : Yields (Category.read .primary (skipSpace text)) tree rest ↔
          Yields (readPrimary (skipSpace text)) tree rest := by
        refine (yields_widen_iff _).trans ?_
        rw [skipSpace_skipSpace]
      rw [Plan.run_ask_done, outcome_phrase_iff, hPrimary]
      constructor
      · rintro (⟨after, _, hText, -⟩ | ⟨-, ⟨_, _, hText, -⟩ | ⟨-, hOperand⟩⟩)
        · exact absurd hText (hMinus after)
        · cases hNot.symm.trans hText
        · exact hOperand
      · exact fun hOperand => .inr ⟨hHead, .inr ⟨hNot, hOperand⟩⟩

private theorem follows_primary (text : List Char) :
    Call.outcome ⟨.phrase .primary, text⟩ = (Call.plan ⟨.phrase .primary, text⟩).run Call.outcome := by
  refine Option.ext fun ⟨tree, rest⟩ => ?_
  rw [outcome_phrase_iff]
  refine (yields_widen_iff _).trans (yields_readPrimary_iff.trans ?_)
  rw [Call.plan]
  split
  next inside hOpen =>
    rw [Plan.run_ask_eq_some_iff]
    constructor
    · rintro (⟨_, afterInner, hText, hInner, hClose⟩ | ⟨hNone, -⟩)
      · cases hOpen.symm.trans hText
        refine ⟨tree, afterInner, outcome_phrase_iff.2 hInner, ?_⟩
        rw [hClose]
        rfl
      · exact absurd (congrArg List.head? hOpen) hNone
    · rintro ⟨inner, afterInner, hInner, hRun⟩
      split at hRun
      next after hClose =>
        cases hRun
        exact .inl ⟨inside, afterInner, hOpen, outcome_phrase_iff.1 hInner, hClose⟩
      next => cases hRun
  next hOpen =>
    have hHead : (skipSpace text).head? ≠ some '(' := head?_ne_of_not_cons hOpen
    rw [← outcome_eq_some_iff]
    constructor
    · rintro (⟨inside, _, hText, -⟩ | ⟨-, hAtom⟩)
      · exact absurd hText (hOpen inside)
      · rw [hAtom]
        rfl
    · intro hRun
      refine .inr ⟨hHead, ?_⟩
      split at hRun
      next hAtom =>
        cases hRun
        exact hAtom
      next => cases hRun

/-- A call reads what its plan makes of the outcomes of the calls in it. -/
theorem Call.outcome_eq_run (call : Call) : call.outcome = call.plan.run Call.outcome := by
  obtain ⟨task, text⟩ := call
  cases task with
  | phrase category =>
      cases category with
      | expr => exact follows_expr text
      | chain level => exact follows_chain level text
      | unary => exact follows_unary text
      | primary => exact follows_primary text
  | rounds level joined => exact follows_rounds level joined text

/-! ### Calls on less and less text -/

namespace Call

variable {call inner : Call}

def calls (call : Call) : List Call :=
  call.plan.calls Call.outcome

def opening : Call → Nat
  | ⟨.phrase .primary, text⟩ => if (skipSpace text).head? = some '(' then 1 else 0
  | _ => 0

end Call

def Task.rank : Task → Nat
  | .phrase .expr => 7
  | .phrase (.chain level) => level.rank + 1
  | .phrase .unary => 1
  | .phrase .primary => 0
  | .rounds _ _ => 0

theorem Task.rank_lt (task : Task) : task.rank < 8 := by
  cases task with
  | phrase category =>
      cases category with
      | chain level => cases level <;> decide
      | _ => decide
  | rounds level joined => exact Nat.zero_lt_succ 7

theorem Task.rank_operand_lt (level : Level) :
    (Task.phrase (operand level)).rank < (Task.phrase (.chain level)).rank := by
  cases level <;> decide

namespace Call

variable {call inner : Call}

theorem takes_of_outcome {category : Category} {text rest : List Char} {tree : Expr}
    (hOutcome : Call.outcome ⟨.phrase category, text⟩ = some (tree, rest)) :
    Takes tree.nodes text rest :=
  takes_of_read (outcome_phrase_iff.1 hOutcome)

/-- How a call within a call stands to it: its category binds tighter, or it reads on behind
something that was taken, or in a parenthesis. -/
inductive Within (inner call : Call) : Prop
  | tighter (hOpening : call.opening = 0) (hRank : inner.task.rank < call.task.rank)
      (hTakes : Takes 0 call.text inner.text)
  | behind (hOpening : call.opening = 0) (hTakes : Takes 1 call.text inner.text)
  | parenthesis {inside : List Char} (hOpening : call.opening = 1)
      (hOpen : skipSpace call.text = '(' :: inside) (hTakes : Takes 0 inside inner.text)

private theorem within_expr {text : List Char} (hInner : inner ∈ calls ⟨.phrase .expr, text⟩) :
    Within inner ⟨.phrase .expr, text⟩ := by
  rcases Plan.mem_calls_ask_iff.1 hInner with rfl | ⟨condition, after, hCondition, hInner⟩
  · exact .tighter rfl (Nat.lt_succ_self 6) (.refl text)
  · have hTakes := takes_of_outcome hCondition
    split at hInner
    next afterMark hMark =>
      have hToMark := hTakes.trans (takes_mark hMark (by decide) (by decide))
      rcases Plan.mem_calls_ask_iff.1 hInner with rfl | ⟨yes, afterYes, hYes, hInner⟩
      · exact .behind rfl (hToMark.mono (Nat.le_add_left 1 _))
      · have hToYes := hToMark.trans (takes_of_outcome hYes)
        split at hInner
        next afterColon hColon =>
          have hToColon := hToYes.trans (takes_mark hColon (by decide) (by decide))
          rcases Plan.mem_calls_ask_iff.1 hInner with rfl | ⟨no, rest, -, hInner⟩
          · exact .behind rfl (hToColon.mono (Nat.le_add_left 1 _))
          · cases hInner
        next => cases hInner
    next => cases hInner

private theorem within_chain {level : Level} {text : List Char}
    (hInner : inner ∈ calls ⟨.phrase (.chain level), text⟩) :
    Within inner ⟨.phrase (.chain level), text⟩ := by
  rcases Plan.mem_calls_ask_iff.1 hInner with rfl | ⟨first, after, hFirst, hInner⟩
  · exact .tighter rfl (Task.rank_operand_lt level) (.refl text)
  · rcases Plan.mem_calls_ask_iff.1 hInner with rfl | ⟨_, _, -, hInner⟩
    · exact .behind rfl ((takes_of_outcome hFirst).mono first.nodes_pos)
    · cases hInner

private theorem within_rounds {level : Level} {joined : Expr} {text : List Char}
    (hInner : inner ∈ calls ⟨.rounds level joined, text⟩) :
    Within inner ⟨.rounds level joined, text⟩ := by
  rw [calls, plan] at hInner
  split at hInner
  next => cases hInner
  next op after hSymbol =>
    have hToRight : Takes 1 text (skipSpace after) :=
      ((takes_skipSpace text).trans ((symbol?_sound hSymbol).takes.trans (takes_skipSpace after))).mono
        (by decide)
    rcases Plan.mem_calls_ask_iff.1 hInner with rfl | ⟨right, rest, hRight, hInner⟩
    · exact .behind rfl hToRight
    · rcases Plan.mem_calls_ask_iff.1 hInner with rfl | ⟨_, _, -, hInner⟩
      · exact .behind rfl ((hToRight.trans (takes_of_outcome hRight)).mono (Nat.le_add_right 1 _))
      · cases hInner

private theorem within_unary {text : List Char} (hInner : inner ∈ calls ⟨.phrase .unary, text⟩) :
    Within inner ⟨.phrase .unary, text⟩ := by
  rw [calls, plan] at hInner
  split at hInner
  next after hMinus =>
    rcases Plan.mem_calls_ask_iff.1 hInner with rfl | ⟨_, _, -, hInner⟩
    · have hSign : Takes 1 (skipSpace text) after := hMinus ▸ .mark (by decide) (by decide)
      exact .behind rfl (((takes_skipSpace text).trans hSign).mono (by decide))
    · cases hInner
  next hMinus =>
    split at hInner
    next after hNot =>
      rcases Plan.mem_calls_ask_iff.1 hInner with rfl | ⟨_, _, -, hInner⟩
      · exact .behind rfl (((takes_skipSpace text).trans (dropNot_sound hNot).takes).mono (by decide))
      · cases hInner
    next =>
      rcases Plan.mem_calls_ask_iff.1 hInner with rfl | ⟨_, _, -, hInner⟩
      · exact .tighter rfl Nat.one_pos (takes_skipSpace text)
      · cases hInner

private theorem within_primary {text : List Char}
    (hInner : inner ∈ calls ⟨.phrase .primary, text⟩) :
    Within inner ⟨.phrase .primary, text⟩ := by
  rw [calls, plan] at hInner
  split at hInner
  next inside hOpen =>
    rcases Plan.mem_calls_ask_iff.1 hInner with rfl | ⟨_, after, -, hInner⟩
    · have hOpening : opening ⟨.phrase .primary, text⟩ = 1 := if_pos (congrArg List.head? hOpen)
      exact .parenthesis hOpening hOpen (takes_skipSpace inside)
    · split at hInner
      · cases hInner
      · cases hInner
  next =>
    split at hInner
    · cases hInner
    · cases hInner

theorem within_of_mem (hInner : inner ∈ call.calls) : Within inner call := by
  obtain ⟨task, text⟩ := call
  cases task with
  | phrase category =>
      cases category with
      | expr => exact within_expr hInner
      | chain level => exact within_chain hInner
      | unary => exact within_unary hInner
      | primary => exact within_primary hInner
  | rounds level joined => exact within_rounds hInner

/-- What a call within a call has less of: characters, or else looser categories. -/
def size (call : Call) : Nat :=
  8 * call.text.length + call.task.rank

theorem size_lt_of_mem (hInner : inner ∈ call.calls) : inner.size < call.size := by
  have hBound := inner.task.rank_lt
  unfold size
  cases within_of_mem hInner with
  | tighter _ hRank hTakes =>
      have hLength := hTakes.suffix.length_le
      omega
  | behind _ hTakes =>
      have hLength := hTakes.shorter
      omega
  | parenthesis _ hOpen hTakes =>
      have hLength := hTakes.suffix.length_le
      have hSkip := (skipSpace_suffix call.text).length_le
      rw [hOpen, List.length_cons] at hSkip
      omega

/-- No run of calls, each made by the one before, goes on for ever. -/
theorem wellFounded_calls : WellFounded fun inner call : Call => inner ∈ call.calls :=
  Subrelation.wf size_lt_of_mem (InvImage.wf size Nat.lt_wfRel.wf)

end Call

end LawnCalibration.Formula
