import LawnCalibration.Service.Error
import LawnCalibration.Storage

/-
Actions of the service on a storage.

An action that fails keeps what it wrote before it failed.
-/

set_option autoImplicit false

namespace LawnCalibration.Service

open Store (EntityName)

/-- A computation that may change a storage of type `σ` and may fail. -/
abbrev Action (σ α : Type) : Type :=
  ExceptT ServiceError (StateM σ) α

namespace Action

variable {σ α : Type}

def query (question : σ → Except StoreError α) : Action σ α :=
  ExceptT.mk fun store =>
    match question store with
    | .ok answer => (.ok answer, store)
    | .error error => (.error (.store error), store)

/-- Writes into the storage; a write that is refused leaves it as it is. -/
def write (change : σ → Except StoreError (α × σ)) : Action σ α :=
  ExceptT.mk fun store =>
    match change store with
    | .ok (answer, after) => (.ok answer, after)
    | .error error => (.error (.store error), store)

def add (insertion : σ → Except StoreError σ) : Action σ Unit :=
  write fun store => (insertion store).map fun after => ((), after)

def alter (entity : EntityName) (key : String)
    (change : σ → Except StoreError (Bool × σ)) : Action σ Unit := do
  if ← write change then return ()
  throw (.notFound entity key)

def load (entity : EntityName) (key : String)
    (question : σ → Except StoreError (Option α)) : Action σ α := do
  match ← query question with
  | some found => return found
  | none => throw (.notFound entity key)

def check (validity : Except Entity.Invalid Unit) : Action σ Unit :=
  match validity with
  | .ok _ => return ()
  | .error reason => throw (.invalid reason)

end Action
end LawnCalibration.Service
