/-
Runs of requests that are answered one after the other.

A run leaves a state.  Beside the state a history may be kept that knows the
requests and their answers only; what ties the two together is shown for one
request and holds of every run.
-/

set_option autoImplicit false

namespace LawnCalibration.Run

variable {ι β σ γ : Type}

def final (perform : ι → σ → β × σ) (requests : List ι) (state : σ) : σ :=
  requests.foldl (fun state request => (perform request state).2) state

/-- What a run makes of a history to which every request and its answer are noted. -/
def history (perform : ι → σ → β × σ) (note : ι → β → γ → γ) : List ι → σ → γ → γ
  | [], _, noted => noted
  | request :: later, state, noted =>
      let result := perform request state
      history perform note later result.2 (note request result.1 noted)

variable {perform : ι → σ → β × σ} {note : ι → β → γ → γ}

theorem final_append (requests later : List ι) (state : σ) :
    final perform (requests ++ later) state = final perform later (final perform requests state) :=
  List.foldl_append

theorem final_concat (requests : List ι) (request : ι) (state : σ) :
    final perform (requests ++ [request]) state =
      (perform request (final perform requests state)).2 :=
  final_append requests [request] state

/-- What every request of a run keeps. -/
theorem final_keeps {P : σ → Prop} {requests : List ι} {state : σ} (hStart : P state)
    (hStep : ∀ request ∈ requests, ∀ state, P state → P (perform request state).2) :
    P (final perform requests state) :=
  List.foldlRecOn requests _ hStart fun state hKept request hMember =>
    hStep request hMember state hKept

/-- By induction on the run: state and history follow every request alike. -/
theorem history_follows {R : σ → γ → Prop} {state : σ} {noted : γ}
    (hStart : R state noted)
    (hStep : ∀ request state noted, R state noted →
      R (perform request state).2 (note request (perform request state).1 noted))
    (requests : List ι) :
    R (final perform requests state) (history perform note requests state noted) := by
  induction requests generalizing state noted with
  | nil => exact hStart
  | cons request later ih => exact ih (hStep request state noted hStart)

end LawnCalibration.Run
