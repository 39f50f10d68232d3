import LawnCalibration.Storage

/-
A storage whose updates can lose a race.

While updates are lost, every update finds its row gone and changes nothing;
everything else works as in the storage underneath.
-/

set_option autoImplicit false

namespace LawnCalibration.Storage

structure Contended (σ : Type) where
  store : σ
  losesUpdates : Bool

namespace Contended

variable {σ : Type}

def keep (contended : Contended σ) (after : σ) : Contended σ :=
  { contended with store := after }

def contend (contended : Contended σ) (update : σ → Except StoreError (Bool × σ)) :
    Except StoreError (Bool × Contended σ) :=
  if contended.losesUpdates then .ok (false, contended)
  else (update contended.store).map fun (found, after) => (found, contended.keep after)

def through (contended : Contended σ) (change : σ → Except StoreError (Bool × σ)) :
    Except StoreError (Bool × Contended σ) :=
  (change contended.store).map fun (found, after) => (found, contended.keep after)

def insert (contended : Contended σ) (insertion : σ → Except StoreError σ) :
    Except StoreError (Contended σ) :=
  (insertion contended.store).map contended.keep

instance [Storage σ] : Storage (Contended σ) where
  insertUnit unit contended := contended.insert (insertUnit unit)
  updateUnit unit contended := contended.contend (updateUnit unit)
  loadUnit symbol contended := loadUnit symbol contended.store
  listUnits contended := listUnits contended.store
  insertFormulation formulation contended := contended.insert (insertFormulation formulation)
  updateFormulation formulation contended := contended.contend (updateFormulation formulation)
  loadFormulation id contended := loadFormulation id contended.store
  listFormulations contended := listFormulations contended.store
  insertLawnService service contended := contended.insert (insertLawnService service)
  updateLawnService service contended := contended.contend (updateLawnService service)
  loadLawnService id contended := loadLawnService id contended.store
  listLawnServices contended := listLawnServices contended.store
  insertLog log contended := contended.insert (insertLog log)
  updateLog log contended := contended.contend (updateLog log)
  deleteLog id moment contended := contended.through (deleteLog id moment)
  loadLog id contended := loadLog id contended.store
  listLogs filter contended := listLogs filter contended.store
  insertRecord record contended := contended.insert (insertRecord record)
  updateRecord record contended := contended.contend (updateRecord record)
  deleteRecord id contended := contended.through (deleteRecord id)
  loadRecord id contended := loadRecord id contended.store
  loadRecords log contended := loadRecords log contended.store
  listRecords filter contended := listRecords filter contended.store

end Contended
end LawnCalibration.Storage
