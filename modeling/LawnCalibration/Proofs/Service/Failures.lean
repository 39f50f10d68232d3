import LawnCalibration.Proofs.Service.Runs

/-
What a call that fails leaves behind.

A call writes at most once, and nothing that can fail comes after the write,
except in the change of a log, which is read again.  That reading fails only
where a time outside of the years of four digits has been written before.
-/

set_option autoImplicit false

namespace LawnCalibration.Service

open Formula (Budget)
open Store (Database)
open Store.Database (Legible)
open Service.Action

variable {db after : Database} {around : Circumstance} {call : Call} {error : ServiceError}

/-- The change of a log that is written, and that fails because the log cannot be read again. -/
inductive LogUnread (around : Circumstance) (db : Database) : Call → ServiceError → Database → Prop
  | intro {id : CalibrationLogId} {patch : LogPatch} {log : CalibrationLog} {cause : StoreError}
      {after : Database} (hLoad : db.loadLog id = .ok (some log))
      (hService : ∀ service ∈ patch.lawnServiceId,
        ∃ found, db.loadLawnService service = .ok (some found))
      (hWrite : db.updateLog { patch.apply log with updatedAt := around.now } = .ok (true, after))
      (hFails : CompletionFails after { patch.apply log with updatedAt := around.now } cause) :
      LogUnread around db (.updateLog id patch) (.store cause) after

/-- Any other call than the change of a log leaves all tables alone when it fails. -/
theorem Step.unchanged (hStep : Step around db call (.error error) after)
    (hOther : ∀ id patch, call ≠ .updateLog id patch) : after = db := by
  generalize hOutcome : (Except.error error : Except ServiceError Answer) = outcome at hStep
  cases hStep with
  | refused call error => rfl
  | logUpdated hLoad hWrite hCompletes => exact absurd rfl (hOther _ _)
  | _ => cases hOutcome

theorem unchanged_or_unread {budget : Budget}
    (hFailed : call.perform budget around db = (.error error, after)) :
    after = db ∨ LogUnread around db call error after := by
  by_cases hChange : ∃ id patch, call = .updateLog id patch
  · obtain ⟨id, patch, rfl⟩ := hChange
    obtain ⟨result, hError, hUpdate⟩ := logUpdate_perform hFailed
    cases hUpdate with
    | refused error => exact .inl rfl
    | unread hLoad hService hWrite hFails =>
        cases hError
        exact .inr (.intro hLoad hService hWrite hFails)
    | done hLoad hService hWrite hAttaches => cases hError
  · have hStep := step_perform call budget around db
    rw [hFailed] at hStep
    refine .inl (hStep.unchanged ?_)
    intro id patch hSame
    exact hChange ⟨id, patch, hSame⟩

private theorem run_complete_of_fails {log : CalibrationLog} {cause : StoreError} (budget : Budget)
    (hFails : CompletionFails db log cause) :
    (complete budget log []).run.run db = (.error (.store cause), db) := by
  rcases hFails with hRecords | ⟨⟨records, hRecords⟩, hService⟩
  · have hLoad : Storage.loadRecords log.id db = .error cause := hRecords
    rw [complete, run_bind, run_query, hLoad]
  · have hLoad : Storage.loadRecords log.id db = .ok records := hRecords
    have hLookUp : Storage.loadLawnService log.lawnServiceId db = .error cause := hService
    rw [complete, run_bind, run_query, hLoad]
    simp only [lookUp, List.lookup, run_bind, run_query, hLookUp]

/-- The change of a log that is written and cannot be read again fails with the change in place. -/
theorem LogUnread.perform (hUnread : LogUnread around db call error after) (budget : Budget) :
    call.perform budget around db = (.error error, after) := by
  cases hUnread with
  | @intro id patch log cause after hLoad hService hWrite hFails =>
      have hUpdate : (updateLog budget id patch around.now).run.run db =
          (.error (.store cause), after) := by
        have hFound : (findLog id).run.run db = (.ok log, db) := run_load_of_found hLoad
        have hAlter : (alter .calibrationLog id.text
            (Storage.updateLog { patch.apply log with updatedAt := around.now })).run.run db =
              (.ok (), after) := run_alter_of_found hWrite
        rw [updateLog, run_bind, hFound]
        cases hPatch : patch.lawnServiceId with
        | none => simp only [run_bind, hAlter, run_complete_of_fails budget hFails]
        | some service =>
            obtain ⟨found, hKnown⟩ := hService service hPatch
            have hRead : (readLawnService service).run.run db = (.ok found, db) :=
              run_load_of_found hKnown
            simp only [run_bind, hRead, hAlter, run_complete_of_fails budget hFails]
      change (Answer.log <$> updateLog budget id patch around.now).run.run db = _
      rw [run_map, hUpdate]
      rfl

/-- In a database that can be read, a changed log can be read again. -/
theorem LogUnread.not_legible (hUnread : LogUnread around db call error after) : ¬ Legible db := by
  intro hLegible
  cases hUnread with
  | intro hLoad hService hWrite hFails =>
      obtain ⟨-, rfl⟩ := (Database.updateLog_eq_ok hWrite).found
      exact not_completionFails hLegible.records hLegible.lawnServices _ _ hFails

/-- After any run, a call fails and leaves other tables than it found just when it is the change of
a log that is written and cannot be read again. -/
theorem failed_call_changes_iff_unread (run : List Occasion) (occasion : Occasion)
    (error : ServiceError) (after : Database) (hChanged : after ≠ performAll run Database.empty) :
    occasion.perform (performAll run Database.empty) = (.error error, after) ↔
      LogUnread occasion.around (performAll run Database.empty) occasion.call error after := by
  constructor
  · intro hFailed
    exact (unchanged_or_unread hFailed).resolve_left hChanged
  · intro hUnread
    exact hUnread.perform occasion.budget

/-- After any run under a clock that has shown years of four digits, every call that fails leaves all
tables as they were. -/
theorem failed_call_keeps_tables (run : List Occasion) (occasion : Occasion) (error : ServiceError)
    (after : Database) (hClock : ClockInRange run)
    (hFailed : occasion.perform (performAll run Database.empty) = (.error error, after)) :
    after = performAll run Database.empty := by
  by_contra hChanged
  have hUnread := (failed_call_changes_iff_unread run occasion error after hChanged).1 hFailed
  exact hUnread.not_legible (legible_performAll hClock)

theorem march_isDay : Calendar.IsDay 2025 3 1 := by
  decide

def marchRun : List Occasion :=
  let morning := Calendar.Instant.startOfDay ⟨2025, 3, 1, march_isDay⟩
  [⟨.createFormulation ⟨"Granular"⟩, ⟨100⟩, ⟨morning, 1⟩⟩,
    ⟨.createLawnService ⟨"FERT", "Fertilizer", ⟨1⟩, 3.5, "kg", "g", "amount", ""⟩, ⟨100⟩,
      ⟨morning, 2⟩⟩,
    ⟨.createLog ⟨⟨2⟩⟩ ⟨8⟩, ⟨100⟩, ⟨morning, 3⟩⟩,
    ⟨.createRecord ⟨3⟩ ⟨1.5, "g", 10⟩, ⟨100⟩, ⟨morning, 4⟩⟩]

private theorem clockInRange_marchRun : ClockInRange marchRun := by
  unfold ClockInRange
  decide

/-- A change of that log to a lawn service that is not there finds the log, fails and writes
nothing. -/
theorem unknownService_keeps_tables :
    let change : Occasion := ⟨.updateLog ⟨3⟩ ⟨some ⟨9⟩, some ⟨7⟩⟩, ⟨100⟩,
      ⟨Calendar.Instant.startOfDay ⟨2025, 3, 1, march_isDay⟩, 5⟩⟩
    let db := performAll marchRun Database.empty
    ClockInRange marchRun ∧
      (change.perform db).1 = .error (.notFound .lawnService (⟨7⟩ : LawnServiceId).text) ∧
      (change.perform db).2 = db := by
  intro change db
  have hFails : (change.perform db).1 =
      .error (.notFound .lawnService (⟨7⟩ : LawnServiceId).text) := by decide +kernel
  exact ⟨clockInRange_marchRun, hFails, failed_call_keeps_tables marchRun change _ _
    clockInRange_marchRun (eq_of_outcome hFails)⟩

end LawnCalibration.Service
