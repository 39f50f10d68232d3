import LawnCalibration.Proofs.Service.Actions

/-
Actions whose outcomes agree.

Outcomes agree if they are values that belong together or one and the same
error.  An action that only reads is compared with what it should find, and two
actions with each other, each on a storage of its own.
-/

set_option autoImplicit false

namespace LawnCalibration.Service

inductive Agree {ε α β : Type} (same : α → β → Prop) : Except ε α → Except ε β → Prop
  | ok {value : α} {other : β} (hSame : same value other) : Agree same (.ok value) (.ok other)
  | error (error : ε) : Agree same (.error error) (.error error)

namespace Agree

variable {ε α β : Type} {same : α → β → Prop}

theorem refl {same : α → α → Prop} (hSame : ∀ value, same value value) (outcome : Except ε α) :
    Agree same outcome outcome := by
  cases outcome with
  | ok value => exact .ok (hSame value)
  | error error => exact .error error

theorem eq {outcome other : Except ε α} (hAgree : Agree Eq outcome other) : outcome = other := by
  cases hAgree with
  | ok hSame => exact congrArg Except.ok hSame
  | error error => rfl

theorem bind {γ δ : Type} {related : γ → δ → Prop} {outcome : Except ε α} {other : Except ε β}
    {next : α → Except ε γ} {next' : β → Except ε δ} (hAgree : Agree same outcome other)
    (hNext : ∀ value value', same value value' → Agree related (next value) (next' value')) :
    Agree related (outcome >>= next) (other >>= next') := by
  cases hAgree with
  | ok hSame => exact hNext _ _ hSame
  | error error => exact .error error

theorem map {γ δ : Type} {related : γ → δ → Prop} {outcome : Except ε α} {other : Except ε β}
    {f : α → γ} {g : β → δ} (hAgree : Agree same outcome other)
    (hMap : ∀ value other, same value other → related (f value) (g other)) :
    Agree related (outcome.map f) (other.map g) := by
  cases hAgree with
  | ok hSame => exact .ok (hMap _ _ hSame)
  | error error => exact .error error

end Agree

namespace Action

variable {σ τ α β γ δ : Type}

/-- An action leaves the storage as it is, with an outcome that agrees with what it should find. -/
def Yields (action : Action σ α) (store : σ) (same : α → β → Prop) (found : Except ServiceError β) :
    Prop :=
  Results action store fun outcome after => after = store ∧ Agree same outcome found

section Yielding

variable {store : σ} {same : α → β → Prop} {related : γ → δ → Prop}

theorem yields_pure {value : α} {other : β} (hSame : same value other) :
    Yields (pure value : Action σ α) store same (.ok other) :=
  results_pure ⟨rfl, .ok hSame⟩

theorem yields_query (question : σ → Except StoreError α) :
    Yields (query question) store (fun answer other => answer = other ∧ question store = .ok other)
      ((question store).mapError .store) := by
  refine results_query_of (fun error hError => ⟨rfl, ?_⟩) fun answer hAnswer => ⟨rfl, ?_⟩
  · rw [hError]
    exact .error _
  · rw [hAnswer]
    exact .ok ⟨rfl, rfl⟩

theorem yields_load_of_found {entity : Store.EntityName} {key : String}
    {question : σ → Except StoreError (Option α)} {found : α}
    (hFound : question store = .ok (some found)) :
    Yields (load entity key question) store Eq (.ok found) := by
  unfold Yields Results
  rw [run_load_of_found hFound]
  exact ⟨rfl, .ok rfl⟩

/-- Where an action goes on, it goes on with what it should find. -/
theorem Yields.results_bind {first : Action σ α} {next : α → Action σ γ}
    {found : Except ServiceError β} {post : Except ServiceError γ → σ → Prop}
    (hFirst : Yields first store same found)
    (hStop : ∀ error, found = .error error → post (.error error) store)
    (hValue : ∀ value other, same value other → found = .ok other →
      Results (next value) store post) : Results (first >>= next) store post := by
  obtain ⟨hAfter, hAgree⟩ := hFirst
  unfold Results
  rw [run_bind]
  generalize first.run.run store = result at hAfter hAgree ⊢
  obtain ⟨outcome, after⟩ := result
  subst hAfter
  cases hAgree with
  | ok hSame => exact hValue _ _ hSame rfl
  | error error => exact hStop error rfl

theorem Yields.bind {first : Action σ α} {next : α → Action σ γ} {found : Except ServiceError β}
    {rest : β → Except ServiceError δ} (hFirst : Yields first store same found)
    (hNext : ∀ value other, same value other → Yields (next value) store related (rest other)) :
    Yields (first >>= next) store related (found >>= rest) := by
  refine hFirst.results_bind (fun error hError => ?_) fun value other hSame hOther => ?_
  · rw [hError]
    exact ⟨rfl, .error error⟩
  · rw [hOther]
    exact hNext value other hSame

theorem Yields.run_eq {action : Action σ α} {found : Except ServiceError α}
    (hYields : Yields action store Eq found) : action.run.run store = (found, store) :=
  Prod.ext hYields.2.eq hYields.1

end Yielding

/-- Two actions, each on a storage of its own, have outcomes that agree and leave storages that
belong together. -/
def Simulates (alike : σ → τ → Prop) (same : α → β → Prop) (first : Action σ α)
    (second : Action τ β) (store : σ) (other : τ) : Prop :=
  Results first store fun outcome after => Results second other fun outcome' after' =>
    Agree same outcome outcome' ∧ alike after after'

section Simulation

variable {alike : σ → τ → Prop} {same : α → β → Prop} {related : γ → δ → Prop}
variable {store : σ} {other : τ}

theorem simulates_pure {value : α} {value' : β} (hAlike : alike store other)
    (hSame : same value value') :
    Simulates alike same (pure value) (pure value') store other :=
  ⟨.ok hSame, hAlike⟩

theorem Simulates.bind {first : Action σ α} {second : Action τ β} {next : α → Action σ γ}
    {next' : β → Action τ δ} (hFirst : Simulates alike same first second store other)
    (hNext : ∀ value value' after after', same value value' → alike after after' →
      Simulates alike related (next value) (next' value') after after') :
    Simulates alike related (first >>= next) (second >>= next') store other := by
  unfold Simulates Results at hFirst
  unfold Simulates Results
  rw [run_bind, run_bind]
  generalize first.run.run store = result at hFirst ⊢
  generalize second.run.run other = result' at hFirst ⊢
  obtain ⟨outcome, after⟩ := result
  obtain ⟨outcome', after'⟩ := result'
  obtain ⟨hAgree, hAlike⟩ := hFirst
  cases hAgree with
  | ok hSame => exact hNext _ _ after after' hSame hAlike
  | error error => exact ⟨.error error, hAlike⟩

theorem Simulates.map {first : Action σ α} {second : Action τ β} {f : α → γ} {g : β → δ}
    (hFirst : Simulates alike same first second store other)
    (hMap : ∀ value value', same value value' → related (f value) (g value')) :
    Simulates alike related (f <$> first) (g <$> second) store other := by
  unfold Simulates Results at hFirst ⊢
  rw [run_map, run_map]
  exact ⟨hFirst.1.map hMap, hFirst.2⟩

theorem simulates_query {question : σ → Except StoreError α} {question' : τ → Except StoreError β}
    (hAlike : alike store other) (hAgree : Agree same (question store) (question' other)) :
    Simulates alike same (query question) (query question') store other := by
  unfold Simulates Results
  rw [run_query, run_query]
  generalize question store = outcome at hAgree ⊢
  generalize question' other = outcome' at hAgree ⊢
  cases hAgree with
  | ok hSame => exact ⟨.ok hSame, hAlike⟩
  | error error => exact ⟨.error _, hAlike⟩

theorem simulates_load {entity : Store.EntityName} {key : String}
    {question : σ → Except StoreError (Option α)} {question' : τ → Except StoreError (Option β)}
    (hAlike : alike store other)
    (hAgree : Agree (Option.Rel same) (question store) (question' other)) :
    Simulates alike same (load entity key question) (load entity key question') store other := by
  refine (simulates_query hAlike hAgree).bind fun found found' after after' hFound hAfter => ?_
  cases hFound with
  | some hSame => exact simulates_pure hAfter hSame
  | none => exact ⟨.error _, hAfter⟩

theorem simulates_alter {entity : Store.EntityName} {key : String}
    {change : σ → Except StoreError (Bool × σ)} {change' : τ → Except StoreError (Bool × τ)}
    (hAlike : alike store other)
    (hAgree : Agree (fun written written' => written.1 = written'.1 ∧ alike written.2 written'.2)
      (change store) (change' other)) :
    Simulates alike Eq (alter entity key change) (alter entity key change') store other := by
  have hWrite : Simulates alike Eq (write change) (write change') store other := by
    unfold Simulates Results
    rw [run_write, run_write]
    generalize change store = outcome at hAgree ⊢
    generalize change' other = outcome' at hAgree ⊢
    cases hAgree with
    | ok hSame => exact ⟨.ok hSame.1, hSame.2⟩
    | error error => exact ⟨.error _, hAlike⟩
  refine hWrite.bind fun found found' after after' hFound hAfter => ?_
  cases hFound
  cases found with
  | true => exact simulates_pure hAfter rfl
  | false => exact ⟨.error _, hAfter⟩

end Simulation
end Action
end LawnCalibration.Service
