import LawnCalibration.Service.Action
import Mathlib.Tactic.Common

/-
What an action results in: its outcome and the storage after it.

There is one rule for every way in which actions are put together.  Each asks
for the case in which the action ends there and for the case in which it goes
on; later proofs run an action by these rules alone.  A rule whose name ends in
`of` says with which error the action ends.
-/

set_option autoImplicit false

namespace LawnCalibration.Service.Action

open Store (EntityName)

variable {σ α β : Type}

theorem run_bind {action : Action σ β} {next : β → Action σ α} {store : σ} :
    (action >>= next).run.run store =
      match action.run.run store with
      | (.ok value, after) => (next value).run.run after
      | (.error error, after) => (.error error, after) := by
  simp only [ExceptT.run_bind, StateT.run_bind]
  change (match action.run.run store with | (outcome, after) => _) = _
  cases hRun : action.run.run store with
  | mk outcome after => cases outcome <;> rfl

theorem run_map {action : Action σ β} {f : β → α} {store : σ} :
    (f <$> action).run.run store =
      ((action.run.run store).1.map f, (action.run.run store).2) := by
  simp only [ExceptT.run_map, StateT.run_map]
  rfl

theorem run_query {question : σ → Except StoreError α} {store : σ} :
    (query question).run.run store =
      match question store with
      | .ok answer => (.ok answer, store)
      | .error error => (.error (.store error), store) := by
  change (match question store with | .ok _ => _ | .error _ => _) = _
  cases question store <;> rfl

theorem run_write {change : σ → Except StoreError (α × σ)} {store : σ} :
    (write change).run.run store =
      match change store with
      | .ok (answer, after) => (.ok answer, after)
      | .error error => (.error (.store error), store) :=
  rfl

theorem run_load_of_found {entity : EntityName} {key : String}
    {question : σ → Except StoreError (Option α)} {store : σ} {found : α}
    (hFound : question store = .ok (some found)) :
    (load entity key question).run.run store = (.ok found, store) := by
  rw [load, run_bind, run_query, hFound]
  rfl

theorem run_alter_of_found {entity : EntityName} {key : String}
    {change : σ → Except StoreError (Bool × σ)} {store after : σ}
    (hChange : change store = .ok (true, after)) :
    (alter entity key change).run.run store = (.ok (), after) := by
  rw [alter, run_bind, run_write, hChange]
  rfl

/-- Something holds of the outcome of an action and of the storage after it. -/
def Results (action : Action σ α) (store : σ) (post : Except ServiceError α → σ → Prop) : Prop :=
  post (action.run.run store).1 (action.run.run store).2

variable {store : σ} {post : Except ServiceError α → σ → Prop}

theorem results_pure {value : α} (hValue : post (.ok value) store) :
    Results (pure value : Action σ α) store post :=
  hValue

theorem results_map {action : Action σ β} {f : β → α}
    (hAction : Results action store fun outcome after => post (outcome.map f) after) :
    Results (f <$> action) store post := by
  unfold Results
  rw [run_map]
  exact hAction

/-- An action whose outcome is known is replaced by that outcome. -/
private theorem results_bind_of_run {action : Action σ β} {next : β → Action σ α} {value : β}
    {after : σ}
    (hRun : action.run.run store = (.ok value, after)) (hNext : Results (next value) after post) :
    Results (action >>= next) store post := by
  unfold Results
  rw [run_bind, hRun]
  exact hNext

private theorem results_bind_of_stop {action : Action σ β} {next : β → Action σ α}
    {error : ServiceError}
    {after : σ} (hRun : action.run.run store = (.error error, after))
    (hStop : post (.error error) after) : Results (action >>= next) store post := by
  unfold Results
  rw [run_bind, hRun]
  exact hStop

section Reading

variable {next : β → Action σ α}

/-- A question that fails ends the action with its own error. -/
theorem results_query_bind_of {question : σ → Except StoreError β}
    (hFail : ∀ error, question store = .error error → post (.error (.store error)) store)
    (hAnswer : ∀ answer, question store = .ok answer → Results (next answer) store post) :
    Results (query question >>= next) store post := by
  cases hQuestion : question store with
  | error error =>
      exact results_bind_of_stop (by rw [run_query, hQuestion]) (hFail error hQuestion)
  | ok answer =>
      exact results_bind_of_run (by rw [run_query, hQuestion]) (hAnswer answer hQuestion)

theorem results_query_bind {question : σ → Except StoreError β}
    (hStop : ∀ error, post (.error error) store)
    (hAnswer : ∀ answer, question store = .ok answer → Results (next answer) store post) :
    Results (query question >>= next) store post :=
  results_query_bind_of (fun _ _ => hStop _) hAnswer

theorem results_query_of {question : σ → Except StoreError α}
    (hFail : ∀ error, question store = .error error → post (.error (.store error)) store)
    (hAnswer : ∀ answer, question store = .ok answer → post (.ok answer) store) :
    Results (query question) store post := by
  rw [← bind_pure (query question)]
  exact results_query_bind_of hFail hAnswer

theorem results_query {question : σ → Except StoreError α}
    (hStop : ∀ error, post (.error error) store)
    (hAnswer : ∀ answer, question store = .ok answer → post (.ok answer) store) :
    Results (query question) store post :=
  results_query_of (fun _ _ => hStop _) hAnswer

theorem results_load_bind_of {entity : EntityName} {key : String}
    {question : σ → Except StoreError (Option β)}
    (hFail : ∀ error, question store = .error error → post (.error (.store error)) store)
    (hNone : question store = .ok none → post (.error (.notFound entity key)) store)
    (hFound : ∀ found, question store = .ok (some found) → Results (next found) store post) :
    Results (load entity key question >>= next) store post := by
  unfold load
  rw [bind_assoc]
  refine results_query_bind_of hFail ?_
  intro answer hAnswer
  cases answer with
  | none => exact results_bind_of_stop rfl (hNone hAnswer)
  | some found => exact results_bind_of_run rfl (hFound found hAnswer)

theorem results_load_bind {entity : EntityName} {key : String}
    {question : σ → Except StoreError (Option β)} (hStop : ∀ error, post (.error error) store)
    (hFound : ∀ found, question store = .ok (some found) → Results (next found) store post) :
    Results (load entity key question >>= next) store post :=
  results_load_bind_of (fun _ _ => hStop _) (fun _ => hStop _) hFound

theorem results_load_of {entity : EntityName} {key : String}
    {question : σ → Except StoreError (Option α)}
    (hFail : ∀ error, question store = .error error → post (.error (.store error)) store)
    (hNone : question store = .ok none → post (.error (.notFound entity key)) store)
    (hFound : ∀ found, question store = .ok (some found) → post (.ok found) store) :
    Results (load entity key question) store post := by
  rw [← bind_pure (load entity key question)]
  exact results_load_bind_of hFail hNone hFound

theorem results_load {entity : EntityName} {key : String}
    {question : σ → Except StoreError (Option α)} (hStop : ∀ error, post (.error error) store)
    (hFound : ∀ found, question store = .ok (some found) → post (.ok found) store) :
    Results (load entity key question) store post :=
  results_load_of (fun _ _ => hStop _) (fun _ => hStop _) hFound

-- Where the question is known to be answered, the action does not end with its error.

theorem results_query_bind_total {question : σ → Except StoreError β}
    (hTotal : ∃ answer, question store = .ok answer)
    (hAnswer : ∀ answer, question store = .ok answer → Results (next answer) store post) :
    Results (query question >>= next) store post := by
  obtain ⟨answer, hOk⟩ := hTotal
  refine results_query_bind_of ?_ hAnswer
  intro error hError
  rw [hOk] at hError
  cases hError

theorem results_load_bind_total {entity : EntityName} {key : String}
    {question : σ → Except StoreError (Option β)} (hTotal : ∃ answer, question store = .ok answer)
    (hNone : question store = .ok none → post (.error (.notFound entity key)) store)
    (hFound : ∀ found, question store = .ok (some found) → Results (next found) store post) :
    Results (load entity key question >>= next) store post := by
  obtain ⟨answer, hOk⟩ := hTotal
  refine results_load_bind_of ?_ hNone hFound
  intro error hError
  rw [hOk] at hError
  cases hError

theorem results_check_bind_of {validity : Except Entity.Invalid Unit} {next : Unit → Action σ α}
    (hInvalid : ∀ reason, validity = .error reason → post (.error (.invalid reason)) store)
    (hValid : validity = .ok () → Results (next ()) store post) :
    Results (check validity >>= next) store post := by
  cases validity with
  | error reason => exact results_bind_of_stop rfl (hInvalid reason rfl)
  | ok => exact results_bind_of_run rfl (hValid rfl)

theorem results_check_bind {validity : Except Entity.Invalid Unit} {next : Unit → Action σ α}
    (hStop : ∀ error, post (.error error) store)
    (hValid : validity = .ok () → Results (next ()) store post) :
    Results (check validity >>= next) store post :=
  results_check_bind_of (fun _ _ => hStop _) hValid

end Reading

section Writing

variable {next : Unit → Action σ α}

theorem results_add_bind_of {insertion : σ → Except StoreError σ}
    (hFail : ∀ error, insertion store = .error error → post (.error (.store error)) store)
    (hAdded : ∀ after, insertion store = .ok after → Results (next ()) after post) :
    Results (add insertion >>= next) store post := by
  cases hInsertion : insertion store with
  | error error =>
      exact results_bind_of_stop (by rw [add, run_write, hInsertion]; rfl) (hFail error hInsertion)
  | ok after =>
      exact results_bind_of_run (by rw [add, run_write, hInsertion]; rfl) (hAdded after hInsertion)

theorem results_add_bind {insertion : σ → Except StoreError σ}
    (hStop : ∀ error, post (.error error) store)
    (hAdded : ∀ after, insertion store = .ok after → Results (next ()) after post) :
    Results (add insertion >>= next) store post :=
  results_add_bind_of (fun _ _ => hStop _) hAdded

theorem results_alter_bind_of {entity : EntityName} {key : String}
    {change : σ → Except StoreError (Bool × σ)}
    (hFail : ∀ error, change store = .error error → post (.error (.store error)) store)
    (hLost : ∀ after, change store = .ok (false, after) → post (.error (.notFound entity key)) after)
    (hAltered : ∀ after, change store = .ok (true, after) → Results (next ()) after post) :
    Results (alter entity key change >>= next) store post := by
  cases hChange : change store with
  | error error =>
      have hRun : (alter entity key change).run.run store = (.error (.store error), store) := by
        rw [alter, run_bind, run_write, hChange]
      exact results_bind_of_stop hRun (hFail error hChange)
  | ok written =>
      obtain ⟨found, after⟩ := written
      cases found with
      | false =>
          have hRun : (alter entity key change).run.run store =
              (.error (.notFound entity key), after) := by
            rw [alter, run_bind, run_write, hChange]
            rfl
          exact results_bind_of_stop hRun (hLost after hChange)
      | true => exact results_bind_of_run (run_alter_of_found hChange) (hAltered after hChange)

/-- A change that finds no row has to leave the storage as it is. -/
theorem results_alter_bind {entity : EntityName} {key : String}
    {change : σ → Except StoreError (Bool × σ)} (hStop : ∀ error, post (.error error) store)
    (hLost : ∀ after, change store = .ok (false, after) → after = store)
    (hAltered : ∀ after, change store = .ok (true, after) → Results (next ()) after post) :
    Results (alter entity key change >>= next) store post := by
  refine results_alter_bind_of (fun _ _ => hStop _) (fun after hChange => ?_) hAltered
  rw [hLost after hChange]
  exact hStop _

theorem results_alter {entity : EntityName} {key : String}
    {change : σ → Except StoreError (Bool × σ)} {post : Except ServiceError Unit → σ → Prop}
    (hStop : ∀ error, post (.error error) store)
    (hLost : ∀ after, change store = .ok (false, after) → after = store)
    (hAltered : ∀ after, change store = .ok (true, after) → post (.ok ()) after) :
    Results (alter entity key change) store post := by
  rw [← bind_pure (alter entity key change)]
  exact results_alter_bind hStop hLost hAltered

end Writing
end LawnCalibration.Service.Action
