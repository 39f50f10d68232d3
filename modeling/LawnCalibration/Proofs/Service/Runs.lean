import LawnCalibration.Proofs.Service.Steps
import LawnCalibration.Proofs.Store.Chronology
import LawnCalibration.Proofs.Store.Integrity
import LawnCalibration.Proofs.Store.Legibility
import LawnCalibration.Run

/-
Runs of the service, and what all of them keep.

A run is a sequence of calls of any kind with any outcome.  What a single step
keeps, every run keeps; the times in the database are in order as long as the
clock does not go back, and they can be read as long as it shows years of four
digits.
-/

set_option autoImplicit false

namespace LawnCalibration.Service

open Calendar (Instant)
open Formula (Budget)
open Store (Database)

structure Occasion where
  call : Call
  budget : Budget
  around : Circumstance

namespace Occasion

variable {σ : Type} [Storage σ]

def perform (occasion : Occasion) (store : σ) : Except ServiceError Answer × σ :=
  occasion.call.perform occasion.budget occasion.around store

def now (occasion : Occasion) : Instant :=
  occasion.around.now

end Occasion

def performAll {σ : Type} [Storage σ] (run : List Occasion) (store : σ) : σ :=
  Run.final Occasion.perform run store

/-- The calls of a run, each with the storage that it finds. -/
def moments {σ : Type} [Storage σ] : List Occasion → σ → List (Occasion × σ)
  | [], _ => []
  | occasion :: later, store => (occasion, store) :: moments later (occasion.perform store).2

def ClockRises (run : List Occasion) : Prop :=
  run.Pairwise fun earlier later => earlier.now ≤ later.now

/-- A result is known by its outcome, together with the storage that it leaves. -/
theorem eq_of_outcome {σ : Type} {result : Except ServiceError Answer × σ}
    {outcome : Except ServiceError Answer} (hOutcome : result.1 = outcome) :
    result = (outcome, result.2) :=
  Prod.ext hOutcome rfl

section Storages

variable {σ : Type} [Storage σ] {store : σ}

theorem performAll_concat (run : List Occasion) (occasion : Occasion) :
    performAll (run ++ [occasion]) store = (occasion.perform (performAll run store)).2 :=
  Run.final_concat run occasion store

/-- What every call keeps holds whenever a call is made. -/
theorem moments_keep {P : σ → Prop} (hStart : P store)
    (hStep : ∀ store, P store → ∀ occasion : Occasion, P (occasion.perform store).2)
    (run : List Occasion) : ∀ moment ∈ moments run store, P moment.2 := by
  induction run generalizing store with
  | nil => exact fun _ hMoment => by cases hMoment
  | cons occasion later ih =>
      exact List.forall_mem_cons.2 ⟨hStart, ih (hStep store hStart occasion)⟩

end Storages

open Store.Database (Intact Timed)

theorem Step.intact {around : Circumstance} {db after : Database} {call : Call}
    {outcome : Except ServiceError Answer} (hStep : Step around db call outcome after)
    (hIntact : Intact db) : Intact after := by
  cases hStep with
  | unitCreated hValid hWrite => exact hIntact.insertUnit hWrite hValid (Text.trimmed_trimmed _)
  | unitUpdated hLoad hValid hWrite => exact hIntact.updateUnit hWrite hValid
  | formulationCreated hValid hWrite => exact hIntact.insertFormulation hWrite hValid
  | formulationUpdated hLoad hValid hWrite => exact hIntact.updateFormulation hWrite hValid
  | lawnServiceCreated hValid hWrite => exact hIntact.insertLawnService hWrite hValid
  | lawnServiceUpdated hLoad hValid hWrite => exact hIntact.updateLawnService hWrite hValid
  | logCreated hWrite => exact hIntact.insertLog hWrite
  | logUpdated hLoad hWrite hCompletes => exact hIntact.updateLog hWrite
  | logDeleted hWrite => exact hIntact.deleteLog hWrite
  | recordCreated hValid hLog hWrite => exact hIntact.insertRecord hWrite hValid
  | recordUpdated hLoad hValid hWrite => exact hIntact.updateRecord hWrite hValid
  | recordDeleted hWrite => exact hIntact.deleteRecord hWrite
  | _ => exact hIntact

theorem Occasion.intact {db : Database} (hIntact : Intact db) (occasion : Occasion) :
    Intact (occasion.perform db).2 :=
  (step_perform occasion.call occasion.budget occasion.around db).intact hIntact

theorem intact_performAll (run : List Occasion) : Intact (performAll run Database.empty) :=
  Run.final_keeps Database.intact_empty fun occasion _ _ hIntact => occasion.intact hIntact

theorem Step.timed {around : Circumstance} {db after : Database} {call : Call}
    {outcome : Except ServiceError Answer} (hStep : Step around db call outcome after)
    (hTimed : Timed around.now db) : Timed around.now after := by
  cases hStep with
  | unitCreated hValid hWrite => exact hTimed.insertUnit rfl rfl hWrite
  | unitUpdated hLoad hValid hWrite => exact hTimed.updateUnit rfl hWrite
  | formulationCreated hValid hWrite => exact hTimed.insertFormulation rfl rfl hWrite
  | formulationUpdated hLoad hValid hWrite => exact hTimed.updateFormulation rfl hWrite
  | lawnServiceCreated hValid hWrite => exact hTimed.insertLawnService rfl rfl hWrite
  | lawnServiceUpdated hLoad hValid hWrite => exact hTimed.updateLawnService rfl hWrite
  | logCreated hWrite => exact hTimed.insertLog rfl rfl rfl hWrite
  | logUpdated hLoad hWrite hCompletes => exact hTimed.updateLog rfl hWrite
  | logDeleted hWrite => exact hTimed.deleteLog hWrite
  | recordCreated hValid hLog hWrite => exact hTimed.insertRecord rfl rfl hWrite
  | recordUpdated hLoad hValid hWrite => exact hTimed.updateRecord rfl hWrite
  | recordDeleted hWrite => exact hTimed.deleteRecord hWrite
  | _ => exact hTimed

theorem exists_clock {run : List Occasion} (hRises : ClockRises run) :
    ∃ clock, ∀ occasion ∈ run, occasion.now ≤ clock := by
  rcases List.eq_nil_or_concat' run with rfl | ⟨earlier, last, rfl⟩
  · exact ⟨Instant.startOfDay ⟨0, 1, 1, by decide⟩, fun _ hOccasion => by cases hOccasion⟩
  · refine ⟨last.now, fun occasion hOccasion => ?_⟩
    rcases List.mem_append.1 hOccasion with hEarlier | hLast
    · exact (List.pairwise_append.1 hRises).2.2 occasion hEarlier last (List.mem_singleton_self _)
    · exact List.mem_singleton.1 hLast ▸ Instant.le_refl _

/-- By induction on the run from its end: before a call, the clock stood at most where it stands. -/
theorem timed_performAll {run : List Occasion} (hRises : ClockRises run) {clock : Instant}
    (hClock : ∀ occasion ∈ run, occasion.now ≤ clock) :
    Timed clock (performAll run Database.empty) := by
  induction run using List.reverseRecOn generalizing clock with
  | nil => exact Database.timed_empty clock
  | append_singleton run occasion ih =>
      obtain ⟨hBefore, -, hLast⟩ := List.pairwise_append.1 hRises
      have hTimed : Timed occasion.now (performAll run Database.empty) :=
        ih hBefore fun earlier hEarlier => hLast earlier hEarlier occasion (List.mem_singleton_self _)
      rw [performAll_concat]
      have hAfter := (step_perform occasion.call occasion.budget occasion.around _).timed hTimed
      exact hAfter.mono (hClock occasion (by simp))

open Store.Database (Legible)

/-- The clock shows years of four digits throughout a run. -/
def ClockInRange (run : List Occasion) : Prop :=
  ∀ occasion ∈ run, occasion.now.date.HasFourDigits

/-- A log is completed where all records and lawn services can be read. -/
theorem not_completionFails {db : Database}
    (hRecords : ∀ row ∈ db.records, ∃ record, row.toRecord = .ok record)
    (hServices : ∀ row ∈ db.lawnServices, ∃ service, row.toLawnService = .ok service)
    (log : CalibrationLog) (error : StoreError) : ¬ CompletionFails db log error := by
  rintro (hFail | ⟨-, hFail⟩)
  · obtain ⟨records, hLoad⟩ := Database.exists_loadRecords hRecords log.id
    rw [hLoad] at hFail
    cases hFail
  · obtain ⟨service, hLoad⟩ := Database.exists_loadLawnService hServices log.lawnServiceId
    rw [hLoad] at hFail
    cases hFail

theorem Step.legible {around : Circumstance} {db after : Database} {call : Call}
    {outcome : Except ServiceError Answer} (hStep : Step around db call outcome after)
    (hYear : around.now.date.HasFourDigits) (hLegible : Legible db) : Legible after := by
  cases hStep with
  | unitCreated hValid hWrite => exact hLegible.insertUnit hYear hYear hWrite
  | unitUpdated hLoad hValid hWrite => exact hLegible.updateUnit hYear hWrite
  | formulationCreated hValid hWrite => exact hLegible.insertFormulation hYear hYear hWrite
  | formulationUpdated hLoad hValid hWrite => exact hLegible.updateFormulation hYear hWrite
  | lawnServiceCreated hValid hWrite => exact hLegible.insertLawnService hYear hYear hWrite
  | lawnServiceUpdated hLoad hValid hWrite => exact hLegible.updateLawnService hYear hWrite
  | logCreated hWrite => exact hLegible.insertLog hYear hYear rfl hWrite
  | logUpdated hLoad hWrite hCompletes => exact hLegible.updateLog hYear hWrite
  | logDeleted hWrite => exact hLegible.deleteLog hYear hWrite
  | recordCreated hValid hLog hWrite => exact hLegible.insertRecord hYear hYear hWrite
  | recordUpdated hLoad hValid hWrite => exact hLegible.updateRecord hYear hWrite
  | recordDeleted hWrite => exact hLegible.deleteRecord hWrite
  | _ => exact hLegible

theorem legible_performAll {run : List Occasion} (hClock : ClockInRange run) :
    Legible (performAll run Database.empty) := by
  refine Run.final_keeps Database.legible_empty fun occasion hMember db hLegible => ?_
  have hStep := step_perform occasion.call occasion.budget occasion.around db
  exact hStep.legible (hClock occasion hMember) hLegible

end LawnCalibration.Service
