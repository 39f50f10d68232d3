import LawnCalibration.Formula.Evaluation
import LawnCalibration.Proofs.Formula.Calls

/-
The work that a formula costs.

Reading a text takes at most thirteen calls for each of its characters and a few
more, whether it is a formula or not: a call that succeeds is paid for by what
it takes, and the first one that fails ends all that are open.  As many
parentheses are open at a time as the text nests.  A formula then has no more
nodes than bytes, and its evaluation visits none of them twice.
-/

set_option autoImplicit false

namespace LawnCalibration.Formula

open Text
open Grammar

namespace Call

/-- The number of calls in a run of a call, itself included. -/
def work (call : Call) : Nat :=
  1 + (call.calls.attach.map fun inner => inner.1.work).sum
termination_by call.size
decreasing_by exact size_lt_of_mem inner.2

/-- The most parentheses that are open at a time in a run of a call. -/
def depth (call : Call) : Nat :=
  call.opening + (call.calls.attach.map fun inner => inner.1.depth).foldr max 0
termination_by call.size
decreasing_by exact size_lt_of_mem inner.2

private theorem work_eq (call : Call) : call.work = 1 + (call.calls.map work).sum := by
  rw [work, List.attach_map_val]

private theorem depth_eq (call : Call) :
    call.depth = call.opening + (call.calls.map depth).foldr max 0 := by
  rw [depth, List.attach_map_val]

end Call

/-! ### What a run costs -/

/-- Calls that a task may cost beyond those that the characters of its text pay for. -/
def Task.reserve : Task → Nat
  | .phrase .expr => 8
  | .phrase (.chain level) => level.rank + 2
  | .phrase .unary => 2
  | .phrase .primary => 1
  | .rounds _ _ => 1

/-- Calls that a task which succeeds leaves of those that its characters pay for. -/
def Task.credit : Task → Nat
  | .phrase .expr => 1
  | .phrase (.chain level) => 12 - 2 * level.rank
  | .phrase .unary => 12
  | .phrase .primary => 13
  | .rounds _ _ => 0

/-- A run with some number of calls and some outcome stays within its means: thirteen calls for
each character of the text, or of what it took when it succeeds. -/
def Affordable (task : Task) (length work : Nat) (outcome : Outcome) : Prop :=
  work ≤ 13 * length + task.reserve ∧
    ∀ tree rest, outcome = some (tree, rest) →
      work + task.credit + 13 * rest.length ≤ 13 * length + 1

def Call.Frugal (call : Call) : Prop :=
  Affordable call.task call.text.length call.work call.outcome

theorem Call.Frugal.always {task : Task} {text : List Char} (hFrugal : Call.Frugal ⟨task, text⟩) :
    Call.work ⟨task, text⟩ ≤ 13 * text.length + task.reserve :=
  hFrugal.1

theorem Call.Frugal.paid {task : Task} {text rest : List Char} {tree : Expr}
    (hFrugal : Call.Frugal ⟨task, text⟩) (hOutcome : Call.outcome ⟨task, text⟩ = some (tree, rest)) :
    Call.work ⟨task, text⟩ + task.credit + 13 * rest.length ≤ 13 * text.length + 1 :=
  hFrugal.2 tree rest hOutcome

/-- The calls and the outcome of a plan all of whose calls are frugal. -/
inductive Account : Plan → Nat → Outcome → Prop
  | fail : Account .fail 0 none
  | done (tree : Expr) (rest : List Char) : Account (.done tree rest) 0 (some (tree, rest))
  | stuck {call : Call} {next : Expr → List Char → Plan} (hCall : call.Frugal)
      (hOutcome : call.outcome = none) : Account (.ask call next) call.work none
  | step {call : Call} {next : Expr → List Char → Plan} {tree : Expr} {rest : List Char}
      {more : Nat} {outcome : Outcome} (hCall : call.Frugal)
      (hOutcome : call.outcome = some (tree, rest)) (hNext : Account (next tree rest) more outcome) :
      Account (.ask call next) (call.work + more) outcome

private theorem account_of_calls (plan : Plan)
    (hCalls : ∀ inner ∈ plan.calls Call.outcome, inner.Frugal) :
    Account plan ((plan.calls Call.outcome).map Call.work).sum (plan.run Call.outcome) := by
  induction plan with
  | fail => exact .fail
  | done tree rest => exact .done tree rest
  | ask call next ih =>
      have hCall : call.Frugal := hCalls call (Plan.mem_calls_ask_iff.2 (.inl rfl))
      rw [Plan.calls, Plan.run]
      cases hOutcome : call.outcome with
      | none => exact .stuck hCall hOutcome
      | some result =>
          obtain ⟨tree, rest⟩ := result
          have hNext := ih tree rest fun inner hInner =>
            hCalls inner (Plan.mem_calls_ask_iff.2 (.inr ⟨tree, rest, hOutcome, hInner⟩))
          exact .step hCall hOutcome hNext

theorem Call.exists_account (call : Call) (hCalls : ∀ inner ∈ call.calls, inner.Frugal) :
    ∃ more, call.work = 1 + more ∧ Account call.plan more call.outcome := by
  refine ⟨(call.calls.map Call.work).sum, call.work_eq, ?_⟩
  rw [call.outcome_eq_run]
  exact account_of_calls call.plan hCalls

/-! ### Runs stay within their means -/

theorem Task.reserve_pos (task : Task) : 0 < task.reserve := by
  cases task with
  | phrase category =>
      cases category with
      | chain level => exact Nat.zero_lt_succ _
      | _ => decide
  | rounds level joined => exact Nat.one_pos

private theorem reserve_operand (level : Level) :
    (Task.phrase (.chain level)).reserve = (Task.phrase (operand level)).reserve + 1 := by
  cases level <;> rfl

private theorem credit_operand (level : Level) :
    (Task.phrase (operand level)).credit = (Task.phrase (.chain level)).credit + 2 := by
  cases level <;> rfl

private theorem reserve_operand_le (level : Level) : (Task.phrase (operand level)).reserve ≤ 6 := by
  cases level <;> decide

section Accounts

variable {task asked : Task} {length spent more : Nat} {outcome : Outcome} {tree joined : Expr}
  {text rest : List Char} {level : Level} {next : Expr → List Char → Plan}

theorem Account.of_fail (hAccount : Account .fail more outcome)
    (hSpent : spent ≤ 13 * length + task.reserve) : Affordable task length (spent + more) outcome := by
  cases hAccount
  exact ⟨hSpent, nofun⟩

theorem Account.of_done (hAccount : Account (.done tree rest) more outcome)
    (hLeft : spent + task.credit + 13 * rest.length ≤ 13 * length + 1) :
    Affordable task length (spent + more) outcome := by
  cases hAccount
  have hReserve := task.reserve_pos
  refine ⟨by omega, ?_⟩
  rintro _ _ ⟨⟩
  exact hLeft

/-- There has to be enough for the call in case that it fails, and else for the rest of the plan. -/
theorem Account.of_ask (hAccount : Account (.ask ⟨asked, text⟩ next) more outcome)
    (hFails : spent + 13 * text.length + asked.reserve ≤ 13 * length + task.reserve)
    (hReads : ∀ tree rest total more,
      total + asked.credit + 13 * rest.length ≤ spent + 13 * text.length + 1 →
      Account (next tree rest) more outcome → Affordable task length (total + more) outcome) :
    Affordable task length (spent + more) outcome := by
  cases hAccount with
  | stuck hCall hNone =>
      have hAlways := hCall.always
      exact ⟨by omega, nofun⟩
  | @step _ _ tree rest more _ hCall hOutcome hNext =>
      have hPaid := hCall.paid hOutcome
      rw [← Nat.add_assoc]
      exact hReads tree rest _ more (by omega) hNext

theorem Account.expr (hAccount : Account (Call.plan ⟨.phrase .expr, text⟩) more outcome) :
    Affordable (.phrase .expr) text.length (1 + more) outcome := by
  rw [Call.plan] at hAccount
  refine hAccount.of_ask (by simp only [Task.reserve, Level.rank]; omega) ?_
  intro condition after spent more hCondition hAccount
  have hSkip := (skipSpace_suffix after).length_le
  simp only [Task.credit, Level.rank] at hCondition
  split at hAccount
  next afterMark hMark =>
    rw [hMark, List.length_cons] at hSkip
    have hSkipMark := (skipSpace_suffix afterMark).length_le
    refine hAccount.of_ask (by simp only [Task.reserve]; omega) ?_
    intro yes afterYes spent more hYes hAccount
    have hSkipYes := (skipSpace_suffix afterYes).length_le
    simp only [Task.credit] at hYes
    split at hAccount
    next afterColon hColon =>
      rw [hColon, List.length_cons] at hSkipYes
      have hSkipColon := (skipSpace_suffix afterColon).length_le
      refine hAccount.of_ask (by simp only [Task.reserve]; omega) ?_
      intro no rest spent more hNo hAccount
      simp only [Task.credit] at hNo
      exact hAccount.of_done (by simp only [Task.credit]; omega)
    next => exact hAccount.of_fail (by simp only [Task.reserve]; omega)
  next => exact hAccount.of_done (by simp only [Task.credit]; omega)

theorem Account.chain (hAccount : Account (Call.plan ⟨.phrase (.chain level), text⟩) more outcome) :
    Affordable (.phrase (.chain level)) text.length (1 + more) outcome := by
  rw [Call.plan] at hAccount
  have hReserve := reserve_operand level
  have hCredit := credit_operand level
  refine hAccount.of_ask (by omega) ?_
  intro first after spent more hFirst hAccount
  refine hAccount.of_ask (by simp only [Task.reserve] at *; omega) ?_
  intro tree rest spent more hRounds hAccount
  simp only [Task.credit] at hRounds
  exact hAccount.of_done (by omega)

theorem Account.rounds (hAccount : Account (Call.plan ⟨.rounds level joined, text⟩) more outcome) :
    Affordable (.rounds level joined) text.length (1 + more) outcome := by
  rw [Call.plan] at hAccount
  split at hAccount
  next => exact hAccount.of_done (by simp only [Task.credit]; omega)
  next op after hSymbol =>
    have hReserve := reserve_operand_le level
    have hAfter := (Level.symbol?_leaves hSymbol).2
    have hSkip := (skipSpace_suffix text).length_le
    have hSkipAfter := (skipSpace_suffix after).length_le
    refine hAccount.of_ask (by omega) ?_
    intro right rest spent more hRight hAccount
    refine hAccount.of_ask (by simp only [Task.reserve]; omega) ?_
    intro tree left spent more hRounds hAccount
    exact hAccount.of_done (by simp only [Task.credit] at *; omega)

/-- A sign in front of an operand pays for the call that reads it. -/
theorem Account.signed {after : List Char} {op : UnaryOp} (hShorter : after.length < text.length)
    (hAccount : Account
      (.ask ⟨.phrase .unary, after⟩ fun operand rest => .done (.unary op operand) rest) more outcome) :
    Affordable (.phrase .unary) text.length (1 + more) outcome := by
  refine hAccount.of_ask (by omega) ?_
  intro operand rest spent more hOperand hAccount
  exact hAccount.of_done (by omega)

theorem Account.unary (hAccount : Account (Call.plan ⟨.phrase .unary, text⟩) more outcome) :
    Affordable (.phrase .unary) text.length (1 + more) outcome := by
  rw [Call.plan] at hAccount
  have hSkip := (skipSpace_suffix text).length_le
  split at hAccount
  next after hMinus =>
    rw [hMinus, List.length_cons] at hSkip
    exact hAccount.signed hSkip
  next =>
    split at hAccount
    next after hNot => exact hAccount.signed ((dropNot_leaves hNot).2.trans_le hSkip)
    next =>
      refine hAccount.of_ask (by simp only [Task.reserve]; omega) ?_
      intro tree rest spent more hPrimary hAccount
      simp only [Task.credit] at hPrimary
      exact hAccount.of_done (by simp only [Task.credit]; omega)

theorem Account.primary (hAccount : Account (Call.plan ⟨.phrase .primary, text⟩) more outcome) :
    Affordable (.phrase .primary) text.length (1 + more) outcome := by
  rw [Call.plan] at hAccount
  have hSkip := (skipSpace_suffix text).length_le
  split at hAccount
  next inside hOpen =>
    rw [hOpen, List.length_cons] at hSkip
    have hSkipInside := (skipSpace_suffix inside).length_le
    refine hAccount.of_ask (by simp only [Task.reserve]; omega) ?_
    intro inner after spent more hInner hAccount
    have hSkipAfter := (skipSpace_suffix after).length_le
    simp only [Task.credit] at hInner
    split at hAccount
    next rest hClose =>
      rw [hClose, List.length_cons] at hSkipAfter
      exact hAccount.of_done (by simp only [Task.credit]; omega)
    next => exact hAccount.of_fail (by simp only [Task.reserve]; omega)
  next =>
    split at hAccount
    next tree rest hAtom =>
      have hShorter := (outcome_eq_some_iff.1 hAtom).shorter
      exact hAccount.of_done (by simp only [Task.credit]; omega)
    next => exact hAccount.of_fail (by simp only [Task.reserve]; omega)

end Accounts

/-- By induction on the calls: the account of a plan bounds the work of the call. -/
theorem Call.frugal (call : Call) : call.Frugal := by
  induction call using wellFounded_calls.induction with
  | _ call ih =>
      obtain ⟨more, hWork, hAccount⟩ := call.exists_account ih
      unfold Frugal
      rw [hWork]
      obtain ⟨task, text⟩ := call
      cases task with
      | phrase category =>
          cases category with
          | expr => exact hAccount.expr
          | chain level => exact hAccount.chain
          | unary => exact hAccount.unary
          | primary => exact hAccount.primary
      | rounds level joined => exact hAccount.rounds

theorem Call.work_le (call : Call) : call.work ≤ 13 * call.text.length + 8 := by
  have hWork := call.frugal.1
  have hReserve : call.task.reserve ≤ 8 := by
    cases call.task with
    | phrase category =>
        cases category with
        | chain level => cases level <;> decide
        | _ => decide
    | rounds level joined => exact Nat.le_add_left 1 7
  omega

/-- With some parentheses open in front of a text, no front of it opens more than the limit. -/
def HasRoom (limit reached : Nat) (text : List Char) : Prop :=
  ∀ part, part <+: text → reached + part.count '(' ≤ part.count ')' + limit

namespace HasRoom

variable {limit reached least : Nat} {text rest inside : List Char}

theorem here (hRoom : HasRoom limit reached text) : reached ≤ limit := by
  simpa using hRoom [] List.nil_prefix

theorem behind (hRoom : HasRoom limit reached text) (hTakes : Takes least text rest) :
    HasRoom limit reached rest := by
  obtain ⟨taken, rfl, -, hPairs⟩ := hTakes
  intro part hPart
  have hWhole := hRoom (taken ++ part) ((List.prefix_append_right_inj taken).2 hPart)
  rw [List.count_append, List.count_append, hPairs] at hWhole
  omega

private theorem enter
    (hRoom : HasRoom limit reached ('(' :: inside)) : HasRoom limit (reached + 1) inside := by
  intro part hPart
  have hWhole := hRoom ('(' :: part) (List.cons_prefix_cons.2 ⟨rfl, hPart⟩)
  rw [List.count_cons_self, List.count_cons_of_ne (by decide)] at hWhole
  omega

end HasRoom

private theorem hasRoom_of_nestsWithin {limit : Nat} {text : List Char}
    (hNests : NestsWithin limit text) :
    HasRoom limit 0 text := by
  intro part hPart
  rw [Nat.zero_add]
  exact hNests part hPart.isInfix

namespace Call

private theorem opening_cases (call : Call) :
    call.opening = 0 ∨ call.opening = 1 ∧ ∃ inside, skipSpace call.text = '(' :: inside := by
  unfold opening
  split
  · split
    · rename_i hHead
      exact .inr ⟨rfl, List.head?_eq_some_iff.1 hHead⟩
    · exact .inl rfl
  · exact .inl rfl

private theorem opening_le {limit reached : Nat} {call : Call}
    (hRoom : HasRoom limit reached call.text) :
    reached + call.opening ≤ limit := by
  rcases call.opening_cases with hNone | ⟨hOne, inside, hOpen⟩
  · rw [hNone]
    exact hRoom.here
  · have hInside := hRoom.behind (takes_skipSpace call.text)
    rw [hOpen] at hInside
    rw [hOne]
    exact hInside.enter.here

/-- By induction on the calls: what a call has taken before it makes another one closes all
parentheses that it opened, but for the one of a parenthesized formula. -/
theorem depth_le (call : Call) {limit reached : Nat} (hRoom : HasRoom limit reached call.text) :
    reached + call.depth ≤ limit := by
  induction call using wellFounded_calls.induction generalizing reached with
  | _ call ih =>
      have hOpening := opening_le hRoom
      have hInner : ∀ inner ∈ call.calls, reached + call.opening + inner.depth ≤ limit := by
        intro inner hMember
        cases within_of_mem hMember with
        | tighter hNone _ hTakes =>
            rw [hNone]
            exact ih inner hMember (hRoom.behind hTakes)
        | behind hNone hTakes =>
            rw [hNone]
            exact ih inner hMember (hRoom.behind hTakes)
        | parenthesis hOne hOpen hTakes =>
            have hInside := hRoom.behind (takes_skipSpace call.text)
            rw [hOpen] at hInside
            rw [hOne]
            exact ih inner hMember (hInside.enter.behind hTakes)
      have hMost : (call.calls.map depth).foldr max 0 ≤ limit - (reached + call.opening) := by
        refine List.max_le_of_forall_le _ _ fun depth hDepth => ?_
        obtain ⟨inner, hMember, rfl⟩ := List.mem_map.1 hDepth
        have hBound := hInner inner hMember
        omega
      rw [depth_eq]
      omega

end Call

/-! ### Visits of an evaluation -/

/-- The evaluation of a tree together with the number of nodes that it visits. -/
def Expr.evaluateCounting (bindings : Bindings) : Expr → Except FormulaError Value × Nat
  | .number x => (.ok (.number x), 1)
  | .variable name =>
      match bindings name with
      | some x => (.ok (.number x), 1)
      | none => (.error (.unknownParameter name), 1)
  | .unary op operand =>
      match operand.evaluateCounting bindings with
      | (.error e, visits) => (.error e, visits + 1)
      | (.ok value, visits) => (op.apply value, visits + 1)
  | .binary op left right =>
      match left.evaluateCounting bindings with
      | (.error e, visits) => (.error e, visits + 1)
      | (.ok leftValue, visits) =>
          match op.shortcut? leftValue with
          | some value => (.ok value, visits + 1)
          | none =>
              match right.evaluateCounting bindings with
              | (.error e, more) => (.error e, visits + more + 1)
              | (.ok rightValue, more) => (op.apply leftValue rightValue, visits + more + 1)
  | .ternary condition yes no =>
      match condition.evaluateCounting bindings with
      | (.error e, visits) => (.error e, visits + 1)
      | (.ok value, visits) =>
          match value.asBoolean with
          | .error e => (.error e, visits + 1)
          | .ok true =>
              match yes.evaluateCounting bindings with
              | (outcome, more) => (outcome, visits + more + 1)
          | .ok false =>
              match no.evaluateCounting bindings with
              | (outcome, more) => (outcome, visits + more + 1)

/-- Counting does not change the value, and no node is visited twice. -/
theorem Expr.evaluateCounting_spec (bindings : Bindings) (expr : Expr) :
    (expr.evaluateCounting bindings).1 = expr.evaluate bindings ∧
      (expr.evaluateCounting bindings).2 ≤ expr.nodes := by
  induction expr with
  | number x => exact ⟨rfl, Nat.le_refl 1⟩
  | «variable» name =>
      unfold evaluateCounting evaluate
      cases bindings name with
      | none => exact ⟨rfl, Nat.le_refl 1⟩
      | some x => exact ⟨rfl, Nat.le_refl 1⟩
  | unary op operand ih =>
      rcases hOperand : operand.evaluateCounting bindings with ⟨outcome, visits⟩
      rw [hOperand] at ih
      obtain ⟨hValue, hVisits⟩ := ih
      dsimp only at hValue hVisits
      rw [evaluateCounting, hOperand, evaluate, ← hValue, nodes]
      cases outcome with
      | error e => exact ⟨rfl, Nat.succ_le_succ hVisits⟩
      | ok value => exact ⟨rfl, Nat.succ_le_succ hVisits⟩
  | binary op left right ihLeft ihRight =>
      rcases hLeft : left.evaluateCounting bindings with ⟨outcome, visits⟩
      rcases hRight : right.evaluateCounting bindings with ⟨other, more⟩
      rw [hLeft] at ihLeft
      rw [hRight] at ihRight
      obtain ⟨hLeftValue, hVisits⟩ := ihLeft
      obtain ⟨hRightValue, hMore⟩ := ihRight
      dsimp only at hLeftValue hVisits hRightValue hMore
      rw [evaluateCounting, hLeft, evaluate, ← hLeftValue, nodes]
      cases outcome with
      | error e => exact ⟨rfl, by dsimp only; omega⟩
      | ok leftValue =>
          dsimp only
          cases op.shortcut? leftValue with
          | some value => exact ⟨rfl, by dsimp only; omega⟩
          | none =>
              dsimp only
              rw [hRight, ← hRightValue]
              cases other with
              | error e => exact ⟨rfl, by dsimp only; omega⟩
              | ok rightValue => exact ⟨rfl, by dsimp only; omega⟩
  | ternary condition yes no ihCondition ihYes ihNo =>
      rcases hCondition : condition.evaluateCounting bindings with ⟨outcome, visits⟩
      rw [hCondition] at ihCondition
      obtain ⟨hValue, hVisits⟩ := ihCondition
      obtain ⟨hYes, hYesVisits⟩ := ihYes
      obtain ⟨hNo, hNoVisits⟩ := ihNo
      dsimp only at hValue hVisits
      rw [evaluateCounting, hCondition, evaluate, ← hValue, nodes]
      cases outcome with
      | error e => exact ⟨rfl, by dsimp only; omega⟩
      | ok value =>
          dsimp only
          cases value.asBoolean with
          | error e => exact ⟨rfl, by dsimp only; omega⟩
          | ok holds =>
              cases holds with
              | true => exact ⟨hYes, by dsimp only; omega⟩
              | false => exact ⟨hNo, by dsimp only; omega⟩

theorem nodes_le_of_parse {text : String} {tree : Expr} (hParse : parse text = .ok tree) :
    tree.nodes ≤ 1024 := by
  obtain ⟨-, hLength, -, hTree⟩ := ((parse_eq_ok_iff_derives text).1 tree).1 hParse
  obtain ⟨taken, hText, hNodes, -⟩ := takes_of_derives hTree
  rw [List.append_nil] at hText
  rw [hText] at hLength
  exact hNodes.trans hLength

/-- Whatever a reader of formulas reads is not empty and has a byte for every node of its tree.
The calls that the readers make, counted as their plans make them, come to an end on every text,
after a number of calls that its length bounds.  A formula has at most 1024 nodes, its evaluation
visits no more, and at most 32 parentheses are open at a time. -/
theorem formula_work_bounded :
    (∀ (category : Category) (text : List Char) (tree : Expr) (rest : List Char),
      Yields (category.read text) tree rest →
        ∃ taken, taken ≠ [] ∧ text = taken ++ rest ∧ tree.nodes ≤ byteLength taken) ∧
    (∀ call : Call, call.outcome = call.plan.run Call.outcome) ∧
    (WellFounded fun inner call : Call => inner ∈ call.calls) ∧
    (∀ call : Call, call.work ≤ 13 * call.text.length + 8) ∧
    ∀ (text : String) (tree : Expr), parse text = .ok tree →
      tree.nodes ≤ 1024 ∧
      (∀ bindings, (tree.evaluateCounting bindings).1 = tree.evaluate bindings ∧
        (tree.evaluateCounting bindings).2 ≤ 1024) ∧
      NestsWithin 32 (trim text.toList) ∧ Call.depth ⟨.phrase .expr, trim text.toList⟩ ≤ 32 := by
  refine ⟨fun category text tree rest hYields => ?_, Call.outcome_eq_run, Call.wellFounded_calls,
    Call.work_le, fun text tree hParse => ⟨nodes_le_of_parse hParse, fun bindings => ?_, ?_⟩⟩
  · obtain ⟨taken, hText, hNodes, -⟩ := takes_of_read hYields
    refine ⟨taken, ?_, hText, hNodes⟩
    rintro rfl
    exact Nat.not_lt.2 hNodes tree.nodes_pos
  · obtain ⟨hValue, hVisits⟩ := tree.evaluateCounting_spec bindings
    exact ⟨hValue, hVisits.trans (nodes_le_of_parse hParse)⟩
  · obtain ⟨-, -, hNests, -⟩ := ((parse_eq_ok_iff_derives text).1 tree).1 hParse
    have hDepth := Call.depth_le ⟨.phrase .expr, trim text.toList⟩ (hasRoom_of_nestsWithin hNests)
    rw [Nat.zero_add] at hDepth
    exact ⟨hNests, hDepth⟩

def scaledRate : String :=
  " ((rate + 1) * area) > limit ? -rate : 2e1 "

theorem scaledRate_work_bounded :
    ∃ tree, parse scaledRate = .ok tree ∧ tree.nodes = 11 ∧
      (∀ bindings, (tree.evaluateCounting bindings).1 = tree.evaluate bindings ∧
        (tree.evaluateCounting bindings).2 ≤ 1024) ∧
      Call.depth ⟨.phrase .expr, trim scaledRate.toList⟩ ≤ 32 := by
  obtain ⟨-, -, -, -, hParsed⟩ := formula_work_bounded
  have hParse : parse scaledRate = .ok (.ternary
      (.binary .gt (.binary .mul (.binary .add (.variable "rate") (.number 1.0)) (.variable "area"))
        (.variable "limit"))
      (.unary .neg (.variable "rate")) (.number 20.0)) := by
    decide +kernel
  obtain ⟨-, hVisits, -, hDepth⟩ := hParsed scaledRate _ hParse
  exact ⟨_, hParse, rfl, hVisits, hDepth⟩

end LawnCalibration.Formula
