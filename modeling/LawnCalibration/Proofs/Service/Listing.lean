import LawnCalibration.Proofs.Service.Agreement
import LawnCalibration.Proofs.Service.Completion
import LawnCalibration.Proofs.Service.Readings

/-
Logs that are listed and logs that are read one by one.

The lawn services that are known on the way through a list are a copy of what is
stored.  As long as it is a faithful one, every log of the list is completed
from the database alone, and a single read of the log shows the same.
-/

set_option autoImplicit false

namespace LawnCalibration.Service

open Formula (Budget)
open Store (Database)
open Store.Database (Intact)
open Service.Action

/-- A log with its own records and, if it is stored, the calibrations of its own lawn service. -/
def completedFrom (budget : Budget) (db : Database) (log : CalibrationLog) :
    Except ServiceError CalibrationLog := do
  let records ← (db.loadRecords log.id).mapError .store
  let service ← (db.loadLawnService log.lawnServiceId).mapError .store
  match service with
  | some service => return service.calibrate budget { log with records }
  | none => return { log with records }

private theorem mapError_eq_ok_iff {ε ε' α : Type} {outcome : Except ε α} {f : ε → ε'} {value : α} :
    outcome.mapError f = .ok value ↔ outcome = .ok value := by
  cases outcome with
  | ok found => simp only [Except.mapError, Except.ok.injEq]
  | error error => exact ⟨nofun, nofun⟩

theorem eq_ok_of_map {ε α β : Type} {f : α → β} (hInjective : Function.Injective f)
    {outcome : Except ε α} {value : α} (hOutcome : outcome.map f = .ok (f value)) :
    outcome = .ok value := by
  cases outcome with
  | ok found => exact congrArg Except.ok (hInjective (Except.ok.inj hOutcome))
  | error error => cases hOutcome

theorem completedFrom_eq_ok {budget : Budget} {db : Database} {log completed : CalibrationLog}
    (hServed : Served db log) (hCompleted : completedFrom budget db log = .ok completed) :
    ∃ records service, db.loadRecords log.id = .ok records ∧
      db.loadLawnService log.lawnServiceId = .ok (some service) ∧
        completed = service.calibrate budget { log with records } := by
  obtain ⟨records, hRecords, hRest⟩ := Store.bind_eq_ok_iff.1 hCompleted
  obtain ⟨service, hService, hOutcome⟩ := Store.bind_eq_ok_iff.1 hRest
  rw [mapError_eq_ok_iff] at hRecords hService
  cases service with
  | none => cases Database.loadLawnService_isSome hServed hService
  | some service => exact ⟨records, service, hRecords, hService, (Except.ok.inj hOutcome).symm⟩

/-- What is kept of a log is left alone. -/
private theorem kept_of_completedFrom {budget : Budget} {db : Database}
    {log completed : CalibrationLog}
    (hCompleted : completedFrom budget db log = .ok completed) : completed.kept = log.kept := by
  obtain ⟨records, -, hRest⟩ := Store.bind_eq_ok_iff.1 hCompleted
  obtain ⟨service, -, hOutcome⟩ := Store.bind_eq_ok_iff.1 hRest
  cases service with
  | some service =>
      cases hOutcome
      rfl
  | none =>
      cases hOutcome
      rfl

/-- Every lawn service that is known is just what is stored of it. -/
def Faithful (db : Database) (known : Known) : Prop :=
  ∀ entry ∈ known, db.loadLawnService entry.1 = .ok entry.2

section Completing

variable {db : Database} {known : Known} {budget : Budget}

theorem faithful_nil : Faithful db [] :=
  List.forall_mem_nil _

/-- A lawn service is found as it is stored, and what is known stays faithful. -/
private theorem yields_lookUp (hKnown : Faithful db known) (id : LawnServiceId) :
    Yields (lookUp id known) db (fun found service => found.1 = service ∧ Faithful db found.2)
      ((db.loadLawnService id).mapError .store) := by
  unfold lookUp
  cases hLookup : known.lookup id with
  | some service =>
      obtain ⟨before, after, hSplit, -⟩ := List.lookup_eq_some_iff.1 hLookup
      have hMember : (id, service) ∈ known := by
        rw [hSplit]
        exact List.mem_append_right _ List.mem_cons_self
      have hStored : db.loadLawnService id = .ok service := hKnown (id, service) hMember
      rw [hStored]
      exact yields_pure ⟨rfl, hKnown⟩
  | none =>
      rw [← bind_pure ((db.loadLawnService id).mapError ServiceError.store)]
      refine (yields_query (Storage.loadLawnService id)).bind fun service stored hSame => ?_
      obtain ⟨rfl, hStored⟩ := hSame
      exact yields_pure ⟨rfl, List.forall_mem_cons.2 ⟨hStored, hKnown⟩⟩

theorem yields_complete (hKnown : Faithful db known) (log : CalibrationLog) :
    Yields (complete budget log known) db
      (fun completed alone => completed.1 = alone ∧ Faithful db completed.2)
      (completedFrom budget db log) := by
  refine (yields_query (Storage.loadRecords log.id)).bind fun records stored hRecords => ?_
  obtain ⟨rfl, -⟩ := hRecords
  refine (yields_lookUp hKnown log.lawnServiceId).bind fun found service hFound => ?_
  obtain ⟨rfl, hOthers⟩ := hFound
  obtain ⟨service, others⟩ := found
  cases service with
  | some service => exact yields_pure ⟨rfl, hOthers⟩
  | none => exact yields_pure ⟨rfl, hOthers⟩

/-- By induction on the list: what is known is faithful whenever a log is completed. -/
theorem yields_completeAll (hKnown : Faithful db known) (logs : List CalibrationLog) :
    Yields (completeAll budget logs known) db Eq (logs.mapM (completedFrom budget db)) := by
  induction logs generalizing known with
  | nil => exact yields_pure rfl
  | cons log logs ih =>
      rw [List.mapM_cons]
      refine (yields_complete hKnown log).bind fun completed alone hCompleted => ?_
      obtain ⟨rfl, hOthers⟩ := hCompleted
      refine (ih hOthers).bind fun rest others hRest => ?_
      cases hRest
      exact yields_pure rfl

end Completing

/-! ### Logs that are listed -/

section Listed

variable {db : Database} {budget : Budget}

/-- A log that is not deleted is found by its identifier. -/
theorem loadLog_of_mem (hIntact : Intact db) {row : Store.LogRow} {log : CalibrationLog}
    (hRow : row ∈ db.logs) (hLive : row.isLive = true) (hRead : row.toLog = .ok log) :
    db.loadLog log.id = .ok (some log) := by
  have hId : row.id = log.id.text :=
    Store.eq_text_of_readIdentifier (Store.LogRow.toLog_eq_ok hRead).1 (hIntact.logTexts row hRow)
  have hChosen : Database.isLiveLog log.id.text row = true :=
    Bool.and_eq_true_iff.2 ⟨beq_iff_eq.2 hId, hLive⟩
  refine Store.decodeRow_eq_ok_some_iff.2 ⟨row, ?_, hRead⟩
  cases hFind : db.logs.find? (Database.isLiveLog log.id.text) with
  | none => exact absurd hChosen (List.find?_eq_none.1 hFind row hRow)
  | some other =>
      have hOther : other ∈ db.logs := List.mem_of_find?_eq_some hFind
      have hSame := hIntact.isLiveLog_iff_eq hRow hChosen other hOther
      rw [hSame.1 (List.find?_some hFind)]

theorem readLog_perform {id : CalibrationLogId} {log : CalibrationLog}
    (hLoad : db.loadLog id = .ok (some log)) (around : Circumstance) :
    (Call.readLog id).perform budget around db = ((completedFrom budget db log).map .log, db) := by
  have hYields : Yields (readLog budget id) db Eq (completedFrom budget db log) := by
    have hRest : completedFrom budget db log =
        Except.ok log >>= fun log => completedFrom budget db log >>= pure :=
      (bind_pure _).symm
    rw [hRest]
    refine (yields_load_of_found hLoad).bind fun log stored hLog => ?_
    cases hLog
    refine (yields_complete faithful_nil log).bind fun completed alone hCompleted => ?_
    exact yields_pure hCompleted.1
  change (Answer.log <$> readLog budget id).run.run db = _
  rw [run_map, hYields.run_eq]

theorem readLogs_perform (filter : LogFilter) (around : Circumstance) :
    (Call.readLogs filter).perform budget around db =
      (((db.listLogs filter).mapError .store >>= fun logs =>
        logs.mapM (completedFrom budget db)).map .logs, db) := by
  have hYields : Yields (readLogs budget filter) db Eq ((db.listLogs filter).mapError .store >>=
      fun logs => logs.mapM (completedFrom budget db)) := by
    refine (yields_query (Storage.listLogs filter)).bind fun logs stored hLogs => ?_
    obtain ⟨rfl, -⟩ := hLogs
    exact yields_completeAll faithful_nil logs
  change (Answer.logs <$> readLogs budget filter).run.run db = _
  rw [run_map, hYields.run_eq]

/-- A log shows its own records and what the formulas of its own lawn service give for them. -/
def CalibratedAlone (budget : Budget) (db : Database) (log : CalibrationLog) : Prop :=
  ∃ records service, db.loadRecords log.id = .ok records ∧
    db.loadLawnService log.lawnServiceId = .ok (some service) ∧
      log = service.calibrate budget { log.kept with records }

/-- A log of a list is read by itself just as it was completed. -/
theorem listed_log_alone (hIntact : Intact db) {filter : LogFilter} {stored : List CalibrationLog}
    (hList : db.listLogs filter = .ok stored) {log completed : CalibrationLog} (hLog : log ∈ stored)
    (hCompleted : completedFrom budget db log = .ok completed) :
    CalibratedAlone budget db completed ∧ ∀ later : Circumstance,
      (Call.readLog completed.id).perform budget later db = (.ok (.log completed), db) := by
  obtain ⟨row, hRow, hLive, hRead⟩ := Database.mem_listLogs hList hLog
  obtain ⟨records, service, hRecords, hService, rfl⟩ :=
    completedFrom_eq_ok (served_of_row hIntact hRow hRead) hCompleted
  refine ⟨⟨records, service, hRecords, hService, ?_⟩, fun later => ?_⟩
  · have hKept : log.kept = log := kept_of_toLog hRead
    change _ = service.calibrate budget { log.kept with records }
    rw [hKept]
  · have hLoad : db.loadLog log.id = .ok (some log) := loadLog_of_mem hIntact hRow hLive hRead
    refine (readLog_perform hLoad later).trans ?_
    rw [hCompleted]
    rfl

private theorem map_kept_listLogs {filter : LogFilter} {stored : List CalibrationLog}
    (hList : db.listLogs filter = .ok stored) : stored.map CalibrationLog.kept = stored := by
  have hEach : ∀ log ∈ stored, log.kept = id log := by
    intro log hLog
    obtain ⟨row, -, -, hRead⟩ := Database.mem_listLogs hList hLog
    exact kept_of_toLog hRead
  rw [List.map_congr_left hEach, List.map_id]

private theorem answered_logs {filter : LogFilter} {logs : List CalibrationLog}
    (hOutcome : ((db.listLogs filter).mapError .store >>= fun stored =>
      stored.mapM (completedFrom budget db)).map Answer.logs = .ok (.logs logs)) :
    ∃ stored, db.listLogs filter = .ok stored ∧
      List.Forall₂ (fun log completed => completedFrom budget db log = .ok completed)
        stored logs := by
  have hFound := eq_ok_of_map (fun _ _ hSame => Answer.logs.inj hSame) hOutcome
  obtain ⟨stored, hList, hAll⟩ := Store.bind_eq_ok_iff.1 hFound
  exact ⟨stored, mapError_eq_ok_iff.1 hList, Store.forall₂_of_mapM_eq_ok hAll⟩

/-- Rows that stand in the order of creation are listed as they stand. -/
theorem readLogs_of_ordered {filter : LogFilter} {stored logs : List CalibrationLog}
    (around : Circumstance)
    (hOrder : (db.logs.filter (Store.isChosen filter)).Pairwise fun first second =>
      (if first.createdAt = second.createdAt then decide (first.number ≤ second.number)
      else decide (first.createdAt < second.createdAt)) = true)
    (hRead : (db.logs.filter (Store.isChosen filter)).mapM Store.LogRow.toLog = .ok stored)
    (hCompleted : stored.mapM (completedFrom budget db) = .ok logs) :
    (Call.readLogs filter).perform budget around db = (.ok (.logs logs), db) := by
  have hList : db.listLogs filter = .ok stored := by
    rw [← hRead, ← List.mergeSort_of_pairwise hOrder]
    rfl
  rw [readLogs_perform, hList]
  change ((stored.mapM (completedFrom budget db)).map Answer.logs, db) = _
  rw [hCompleted]
  rfl

end Listed

/-- After any run, a list of logs has just the logs that the storage selects, in the same order.
Each of them shows its own records with the calibrations that its own lawn service gives, whatever
came before it in the list, and is what a single read of it shows. -/
theorem list_read_agrees_with_single_reads (run : List Occasion) (filter : LogFilter)
    (budget : Budget) (around : Circumstance) (logs : List CalibrationLog) (after : Database)
    (hRead : (Call.readLogs filter).perform budget around (performAll run Database.empty) =
      (.ok (.logs logs), after)) :
    after = performAll run Database.empty ∧
      after.listLogs filter = .ok (logs.map CalibrationLog.kept) ∧
      ∀ log ∈ logs, CalibratedAlone budget after log ∧ ∀ later : Circumstance,
        (Call.readLog log.id).perform budget later after = (.ok (.log log), after) := by
  have hIntact := intact_performAll run
  rw [readLogs_perform] at hRead
  obtain ⟨hOutcome, rfl⟩ := Prod.mk.inj hRead
  obtain ⟨stored, hList, hAll⟩ := answered_logs hOutcome
  refine ⟨rfl, ?_, fun log hLog => ?_⟩
  · have hSame : stored.map CalibrationLog.kept = logs.map CalibrationLog.kept := by
      rw [← List.forall₂_eq_eq_eq, List.forall₂_map_left_iff, List.forall₂_map_right_iff]
      exact hAll.imp fun _ _ hCompleted => (kept_of_completedFrom hCompleted).symm
    rw [← hSame, map_kept_listLogs hList, hList]
  · obtain ⟨bare, hBare, hCompleted⟩ := Store.exists_of_forall₂ hAll hLog
    exact listed_log_alone hIntact hList hBare hCompleted

/-- Two logs of two lawn services, one of which judges by the amount and the other by the area. -/
def twoServicesRun : List Occasion :=
  let morning := Calendar.Instant.startOfDay ⟨2025, 4, 1, by decide⟩
  [⟨.createFormulation ⟨"Granular"⟩, ⟨100⟩, ⟨morning, 1⟩⟩,
    ⟨.createLawnService ⟨"FERT", "Fertilizer", ⟨1⟩, 3.5, "kg", "g", "current_amount", ""⟩, ⟨100⟩,
      ⟨morning, 2⟩⟩,
    ⟨.createLawnService ⟨"SEED", "Overseeding", ⟨1⟩, 3.5, "kg", "g", "current_area", ""⟩, ⟨100⟩,
      ⟨morning, 3⟩⟩,
    ⟨.createLog ⟨⟨2⟩⟩ ⟨9⟩, ⟨100⟩, ⟨morning, 4⟩⟩,
    ⟨.createLog ⟨⟨3⟩⟩ ⟨9⟩, ⟨100⟩, ⟨morning, 5⟩⟩,
    ⟨.createRecord ⟨4⟩ ⟨1.5, "g", 10⟩, ⟨100⟩, ⟨morning, 6⟩⟩,
    ⟨.createRecord ⟨5⟩ ⟨2.5, "g", 20⟩, ⟨100⟩, ⟨morning, 7⟩⟩]

def twoServicesLogs : List CalibrationLog :=
  let morning := Calendar.Instant.startOfDay ⟨2025, 4, 1, by decide⟩
  [⟨⟨4⟩, ⟨9⟩, ⟨2⟩, morning, morning, none, some 1.5,
      [⟨⟨6⟩, ⟨4⟩, 1.5, "g", 10, morning, morning, 0.0⟩]⟩,
    ⟨⟨5⟩, ⟨9⟩, ⟨3⟩, morning, morning, none, some 20,
      [⟨⟨7⟩, ⟨5⟩, 2.5, "g", 20, morning, morning, 0.0⟩]⟩]

private theorem twoServicesRun_completed :
    ((performAll twoServicesRun Database.empty).logs.filter
        (Store.isChosen ⟨none, none, none, none⟩)).Pairwise (fun first second =>
          (if first.createdAt = second.createdAt then decide (first.number ≤ second.number)
          else decide (first.createdAt < second.createdAt)) = true) ∧
      ((performAll twoServicesRun Database.empty).logs.filter
        (Store.isChosen ⟨none, none, none, none⟩)).mapM Store.LogRow.toLog =
          .ok (twoServicesLogs.map CalibrationLog.kept) ∧
      (twoServicesLogs.map CalibrationLog.kept).mapM
        (completedFrom ⟨100⟩ (performAll twoServicesRun Database.empty)) = .ok twoServicesLogs := by
  decide +kernel

def twoServicesLater : Circumstance :=
  ⟨Calendar.Instant.startOfDay ⟨2025, 4, 2, by decide⟩, 8⟩

private theorem twoServicesLogs_listed :
    (Call.readLogs ⟨none, none, none, none⟩).perform ⟨100⟩ twoServicesLater
      (performAll twoServicesRun Database.empty) =
        (.ok (.logs twoServicesLogs), performAll twoServicesRun Database.empty) := by
  obtain ⟨hOrder, hRead, hCompleted⟩ := twoServicesRun_completed
  exact readLogs_of_ordered twoServicesLater hOrder hRead hCompleted

/-- Both logs are listed, and either is read by itself as it is listed, with the formula of its own
lawn service. -/
theorem twoServicesLogs_read_singly :
    (Call.readLogs ⟨none, none, none, none⟩).perform ⟨100⟩ twoServicesLater
        (performAll twoServicesRun Database.empty) =
          (.ok (.logs twoServicesLogs), performAll twoServicesRun Database.empty) ∧
      ∀ log ∈ twoServicesLogs,
        (Call.readLog log.id).perform ⟨100⟩ twoServicesLater
          (performAll twoServicesRun Database.empty) =
            (.ok (.log log), performAll twoServicesRun Database.empty) := by
  refine ⟨twoServicesLogs_listed, fun log hLog => ?_⟩
  obtain ⟨-, -, hEach⟩ :=
    list_read_agrees_with_single_reads twoServicesRun _ _ _ _ _ twoServicesLogs_listed
  exact (hEach log hLog).2 twoServicesLater

end LawnCalibration.Service
