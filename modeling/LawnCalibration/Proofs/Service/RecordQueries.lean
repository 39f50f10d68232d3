import LawnCalibration.Proofs.Service.Failures
import LawnCalibration.Proofs.Service.Summaries
import LawnCalibration.Proofs.Store.RecordListing

/-
Records that are listed, against the records of a log that is read.

Both come from the rows of the same table.  A log is read together with its lawn
service, a list of records with all records that it takes in; where nothing that
is needed was written outside of the years of four digits, the two agree.
-/

set_option autoImplicit false

namespace LawnCalibration.Service

open Formula (Budget)
open Store (Database HoldsRecords RecordRow sortedNumbered)
open Store.Database (Intact Legible isLiveLog)
open Service.Action

/-- A call is answered and writes nothing. -/
def Call.Answers (call : Call) (budget : Budget) (around : Circumstance) (db : Database)
    (answer : Answer) : Prop :=
  call.perform budget around db = (.ok answer, db)

section Questions

variable {db : Database} {budget : Budget} {around : Circumstance} {id : CalibrationLogId}

theorem answers_readRecords_iff {filter : RecordFilter} {records : List CalibrationRecord} :
    (Call.readRecords filter).Answers budget around db (.records records) ↔
      db.listRecords filter = .ok records := by
  have hList : Storage.listRecords filter db = db.listRecords filter := rfl
  change (Answer.records <$> query (Storage.listRecords filter)).run.run db = _ ↔ _
  rw [run_map, run_query, hList]
  cases db.listRecords filter with
  | error error => exact iff_of_false (fun hRun => by cases (Prod.mk.inj hRun).1) nofun
  | ok found =>
      constructor
      · intro hRun
        have hFound : found = records := Answer.records.inj (Except.ok.inj (Prod.mk.inj hRun).1)
        rw [hFound]
      · rintro ⟨⟩
        rfl

private theorem results_readLog_completed (id : CalibrationLogId) :
    Results (readLog budget id) db fun outcome _ => ∀ completed, outcome = .ok completed →
      ∃ log, db.loadLog id = .ok (some log) ∧ completedFrom budget db log = .ok completed := by
  refine results_load_bind (fun error _ hOk => by cases hOk) fun log hLoad => ?_
  refine (yields_complete faithful_nil log).results_bind (fun error _ _ hOk => by cases hOk) ?_
  rintro ⟨completed, known⟩ _ ⟨rfl, -⟩ hCompleted
  refine results_pure fun other hOther => ?_
  cases hOther
  exact ⟨log, hLoad, hCompleted⟩

/-- A log is answered from its row, its records and its lawn service. -/
theorem answers_readLog_iff (hIntact : Intact db) {completed : CalibrationLog} :
    (Call.readLog id).Answers budget around db (.log completed) ↔
      ∃ log service records, db.loadLog id = .ok (some log) ∧
        db.loadLawnService log.lawnServiceId = .ok (some service) ∧
        db.loadRecords id = .ok records ∧
        completed = service.calibrate budget { log with records } := by
  constructor
  · intro hAnswers
    change (Answer.log <$> readLog budget id).run.run db = _ at hAnswers
    rw [run_map] at hAnswers
    have hOutcome := eq_ok_of_map (fun _ _ hSame => Answer.log.inj hSame) (Prod.mk.inj hAnswers).1
    obtain ⟨log, hLoad, hCompleted⟩ := results_readLog_completed id completed hOutcome
    obtain ⟨row, hRow, -, hRead⟩ := Database.loadLog_eq_ok_some hLoad
    obtain ⟨records, service, hRecords, hService, hSame⟩ :=
      completedFrom_eq_ok (served_of_row hIntact hRow hRead) hCompleted
    obtain rfl := Database.loadLog_id hLoad
    exact ⟨log, service, records, hLoad, hService, hRecords, hSame⟩
  · rintro ⟨log, service, records, hLoad, hService, hRecords, rfl⟩
    obtain rfl := Database.loadLog_id hLoad
    refine (readLog_perform hLoad around).trans ?_
    rw [completedFrom, hRecords, hService]
    rfl

/-- A log that is loaded is live. -/
private theorem live_of_loadLog {log : CalibrationLog} (hLoad : db.loadLog id = .ok (some log)) :
    db.logs.any (isLiveLog id.text) = true := by
  obtain ⟨row, hRow, hLive, -⟩ := Database.loadLog_eq_ok_some hLoad
  exact List.any_eq_true.2 ⟨row, hRow, hLive⟩

/-- Where all rows can be read, a live log is loaded, and so is its lawn service. -/
theorem loadLog_of_live (hIntact : Intact db) (hLegible : Legible db)
    (hLive : db.logs.any (isLiveLog id.text) = true) :
    ∃ log service, db.loadLog id = .ok (some log) ∧
      db.loadLawnService log.lawnServiceId = .ok (some service) := by
  obtain ⟨found, hFound⟩ := hLegible.loadLog id
  cases found with
  | none =>
      have hNone := List.find?_eq_none.1 (Store.decodeRow_eq_ok_none_iff.1 hFound)
      obtain ⟨row, hRow, hChosen⟩ := List.any_eq_true.1 hLive
      exact absurd hChosen (hNone row hRow)
  | some log =>
      obtain ⟨row, hRow, -, hRead⟩ := Database.loadLog_eq_ok_some hFound
      have hServed := served_of_row hIntact hRow hRead
      obtain ⟨service, hService⟩ :=
        Database.exists_loadLawnService hLegible.lawnServices log.lawnServiceId
      cases service with
      | none => cases Database.loadLawnService_isSome hServed hService
      | some service => exact ⟨log, service, hFound, hService⟩

end Questions

structure QueriesAgree (budget : Budget) (around : Circumstance) (db : Database)
    (id : CalibrationLogId) : Prop where
  /-- of a log that is read, the same records are listed in the same order without calibrations -/
  listed : ∀ log, (Call.readLog id).Answers budget around db (.log log) →
    (Call.readRecords ⟨some id⟩).Answers budget around db
      (.records (log.records.map CalibrationRecord.uncalibrated))
  /-- a log is read where its records are listed, and its row and its lawn service can be read -/
  read_iff : (∃ log, (Call.readLog id).Answers budget around db (.log log)) ↔
    (∃ log service, db.loadLog id = .ok (some log) ∧
      db.loadLawnService log.lawnServiceId = .ok (some service)) ∧
        ∃ records, (Call.readRecords ⟨some id⟩).Answers budget around db (.records records)
  /-- nothing is listed for a log that is deleted or unknown -/
  lost : db.logs.any (isLiveLog id.text) = false →
    (Call.readRecords ⟨some id⟩).Answers budget around db (.records [])

theorem queriesAgree_of_intact {db : Database} {budget : Budget} (hIntact : Intact db)
    (around : Circumstance) (id : CalibrationLogId) : QueriesAgree budget around db id := by
  constructor
  case listed =>
    intro completed hAnswers
    obtain ⟨log, service, records, hLoad, -, hRecords, rfl⟩ := (answers_readLog_iff hIntact).1 hAnswers
    have hSame : (service.calibrate budget { log with records }).records.map
        CalibrationRecord.uncalibrated = records.map CalibrationRecord.uncalibrated :=
      congrArg CalibrationLog.records
        (LawnService.uncalibrated_calibrate service budget { log with records })
    rw [answers_readRecords_iff, Database.listRecords_of_live (live_of_loadLog hLoad), hRecords,
      hSame, uncalibrated_of_loadRecords hRecords]
  case read_iff =>
    constructor
    · rintro ⟨completed, hAnswers⟩
      obtain ⟨log, service, records, hLoad, hService, hRecords, -⟩ :=
        (answers_readLog_iff hIntact).1 hAnswers
      refine ⟨⟨log, service, hLoad, hService⟩, records, ?_⟩
      rw [answers_readRecords_iff, Database.listRecords_of_live (live_of_loadLog hLoad)]
      exact hRecords
    · rintro ⟨⟨log, service, hLoad, hService⟩, records, hListed⟩
      rw [answers_readRecords_iff, Database.listRecords_of_live (live_of_loadLog hLoad)] at hListed
      exact ⟨_, (answers_readLog_iff hIntact).2
        ⟨log, service, records, hLoad, hService, hListed, rfl⟩⟩
  case lost =>
    exact fun hLost => answers_readRecords_iff.2 (Database.listRecords_of_not_live hLost)

/-! ### The list for all logs -/

structure ListsRecords (budget : Budget) (around : Circumstance) (filed : List CalibrationRecord)
    (db : Database) : Prop where
  /-- a list comes from the join of the records with the live logs that they name -/
  joined : ∀ filter, db.listRecords filter = (sortedNumbered RecordRow.createdAt RecordRow.number
    (Database.joinedRecords filter db)).mapM RecordRow.toRecord
  /-- each record of each live log is there once, and none of a deleted log -/
  once : ∀ records, (Call.readRecords ⟨none⟩).Answers budget around db (.records records) →
    (records.map CalibrationRecord.id).Nodup ∧
      records.Perm (filed.filter fun record =>
        db.logs.any (isLiveLog record.calibrationLogId.text))
  /-- the records of a log are listed for it alone as they stand in the list for all logs -/
  restricts : ∀ records, (Call.readRecords ⟨none⟩).Answers budget around db (.records records) →
    ∀ id, (Call.readRecords ⟨some id⟩).Answers budget around db
      (.records (records.filter fun record => record.calibrationLogId = id))
  answered_iff : (∃ records, (Call.readRecords ⟨none⟩).Answers budget around db (.records records)) ↔
    ∀ id, ∃ records, (Call.readRecords ⟨some id⟩).Answers budget around db (.records records)

theorem listsRecords_of_holds {db : Database} {filed : List CalibrationRecord} (hIntact : Intact db)
    (hHolds : HoldsRecords db.records filed) (budget : Budget) (around : Circumstance) :
    ListsRecords budget around filed db := by
  constructor
  case joined =>
    intro filter
    rw [Database.joinedRecords_eq hIntact.logIds]
    rfl
  case once =>
    intro records hAnswers
    have hPerm := Database.listRecords_perm hHolds (answers_readRecords_iff.1 hAnswers)
    refine ⟨?_, hPerm⟩
    rw [(hPerm.map CalibrationRecord.id).nodup_iff]
    exact hHolds.identifiers.sublist (List.filter_sublist.map CalibrationRecord.id)
  case restricts =>
    intro records hAnswers id
    rw [answers_readRecords_iff] at hAnswers ⊢
    exact Database.listRecords_restricted hHolds hAnswers id
  case answered_iff =>
    simp only [answers_readRecords_iff]
    exact Database.listRecords_answered_iff hHolds

/-- After any run under a clock that has shown years of four digits, a live log is read and its
records are listed for it alone as they stand in it, without calibrations; for any other log nothing
is listed.  The list for all logs has each record on file of each live log once, and restricts to
the list for each log. -/
theorem record_queries_agree (run : List Occasion) (budget : Budget) (around : Circumstance)
    (hClock : ClockInRange run) :
    let db := performAll run Database.empty
    (∀ id : CalibrationLogId, db.logs.any (isLiveLog id.text) = true →
      ∃ log, (Call.readLog id).Answers budget around db (.log log) ∧
        (Call.readRecords ⟨some id⟩).Answers budget around db
          (.records (log.records.map CalibrationRecord.uncalibrated))) ∧
      (∀ id : CalibrationLogId, db.logs.any (isLiveLog id.text) = false →
        (Call.readRecords ⟨some id⟩).Answers budget around db (.records [])) ∧
      ∃ records, (Call.readRecords ⟨none⟩).Answers budget around db (.records records) ∧
        (records.map CalibrationRecord.id).Nodup ∧
        records.Perm ((filedRun run).filter fun record =>
          db.logs.any (isLiveLog record.calibrationLogId.text)) ∧
        ∀ id, (Call.readRecords ⟨some id⟩).Answers budget around db
          (.records (records.filter fun record => record.calibrationLogId = id)) := by
  intro db
  have hIntact : Intact db := intact_performAll run
  have hLegible : Legible db := legible_performAll hClock
  have hAgree : ∀ id, QueriesAgree budget around db id := queriesAgree_of_intact hIntact around
  have hLists := listsRecords_of_holds hIntact (holdsRecords_filedRun run) budget around
  refine ⟨fun id hLive => ?_, fun id => (hAgree id).lost, ?_⟩
  · obtain ⟨records, hRecords⟩ := hLegible.listRecords ⟨some id⟩
    obtain ⟨log, hRead⟩ := (hAgree id).read_iff.2
      ⟨loadLog_of_live hIntact hLegible hLive, records, answers_readRecords_iff.2 hRecords⟩
    exact ⟨log, hRead, (hAgree id).listed log hRead⟩
  · obtain ⟨records, hRecords⟩ := hLegible.listRecords ⟨none⟩
    have hAnswers : (Call.readRecords ⟨none⟩).Answers budget around db (.records records) :=
      answers_readRecords_iff.2 hRecords
    obtain ⟨hNodup, hPerm⟩ := hLists.once records hAnswers
    exact ⟨records, hAnswers, hNodup, hPerm, hLists.restricts records hAnswers⟩

/-- Two logs with three records in all, and the later log deleted again. -/
def deletedLogRun : List Occasion :=
  let later := Calendar.Instant.startOfDay ⟨2025, 3, 1, march_isDay⟩
  marchRun ++
    [⟨.createLog ⟨⟨2⟩⟩ ⟨8⟩, ⟨100⟩, ⟨later, 5⟩⟩,
      ⟨.createRecord ⟨5⟩ ⟨2.5, "g", 4⟩, ⟨100⟩, ⟨later, 6⟩⟩,
      ⟨.createRecord ⟨3⟩ ⟨3.5, "g", 20⟩, ⟨100⟩, ⟨later, 7⟩⟩,
      ⟨.deleteLog ⟨5⟩, ⟨100⟩, ⟨later, 8⟩⟩]

private theorem clockInRange_deletedLogRun : ClockInRange deletedLogRun := by
  unfold ClockInRange
  decide

private theorem deletedLogRun_logs :
    (filedRun deletedLogRun).map CalibrationRecord.id = [⟨4⟩, ⟨6⟩, ⟨7⟩] ∧
      (performAll deletedLogRun Database.empty).logs.any
        (isLiveLog (⟨3⟩ : CalibrationLogId).text) = true ∧
      (performAll deletedLogRun Database.empty).logs.any
        (isLiveLog (⟨5⟩ : CalibrationLogId).text) = false := by
  decide +kernel

theorem deletedLogRun_record_queries :
    let db := performAll deletedLogRun Database.empty
    let around : Circumstance := ⟨Calendar.Instant.startOfDay ⟨2025, 3, 1, march_isDay⟩, 9⟩
    ClockInRange deletedLogRun ∧
      (filedRun deletedLogRun).map CalibrationRecord.id = [⟨4⟩, ⟨6⟩, ⟨7⟩] ∧
      (∃ log, (Call.readLog ⟨3⟩).Answers ⟨100⟩ around db (.log log) ∧
        (Call.readRecords ⟨some ⟨3⟩⟩).Answers ⟨100⟩ around db
          (.records (log.records.map CalibrationRecord.uncalibrated))) ∧
      (Call.readRecords ⟨some ⟨5⟩⟩).Answers ⟨100⟩ around db (.records []) ∧
      ∃ records, (Call.readRecords ⟨none⟩).Answers ⟨100⟩ around db (.records records) := by
  intro db around
  obtain ⟨hRead, hLost, records, hAll, -⟩ :=
    record_queries_agree deletedLogRun ⟨100⟩ around clockInRange_deletedLogRun
  obtain ⟨hFiled, hLive, hDeleted⟩ := deletedLogRun_logs
  exact ⟨clockInRange_deletedLogRun, hFiled, hRead ⟨3⟩ hLive, hLost ⟨5⟩ hDeleted, records, hAll⟩

end LawnCalibration.Service
