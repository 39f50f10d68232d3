import LawnCalibration.Proofs.Service.Deletion
import LawnCalibration.Proofs.Service.Effects
import LawnCalibration.Proofs.Service.Listing
import LawnCalibration.Proofs.Service.Reformulation
import LawnCalibration.Proofs.Store.RecordBook

/-
Logs that are handed out, against the summary of their records.

The records on file are told from the calls and their answers alone.  A log that
is handed out shows what both formulas of its lawn service, as they are stored,
give for those of its records in the order of creation.
-/

set_option autoImplicit false

namespace LawnCalibration.Service

open Formula (Budget)
open Store (Database HoldsRecords LawnServiceRow)
open Store.Database (Intact)
open Service.Action

def Call.filed (call : Call) (outcome : Except ServiceError Answer)
    (records : List CalibrationRecord) : List CalibrationRecord :=
  match call, outcome with
  | .createRecord _ _, .ok (.record new) => records ++ [new.kept]
  | .updateRecord _ _, .ok (.record new) =>
      records.map fun record =>
        if record.id = new.id then { new.kept with createdAt := record.createdAt } else record
  | .deleteRecord id, .ok _ => records.filter fun record => record.id ≠ id
  | _, _ => records

theorem Call.filed_of_completes {call : Call} {id : CalibrationLogId} (hCall : call.Completes id)
    (outcome : Except ServiceError Answer) (records : List CalibrationRecord) :
    call.filed outcome records = records := by
  cases call with
  | readLog other => rfl
  | updateLog other patch => rfl
  | _ => cases hCall

theorem Call.filed_of_onCatalogue {call : Call} (hCatalogue : call.OnCatalogue)
    (outcome : Except ServiceError Answer) (records : List CalibrationRecord) :
    call.filed outcome records = records := by
  cases call with
  | createRecord log draft => cases hCatalogue
  | updateRecord id patch => cases hCatalogue
  | deleteRecord id => cases hCatalogue
  | _ => rfl

theorem Call.filed_error (call : Call) (error : ServiceError) (records : List CalibrationRecord) :
    call.filed (.error error) records = records := by
  cases call <;> rfl

def filedRun (run : List Occasion) : List CalibrationRecord :=
  Run.history Occasion.perform (fun occasion => occasion.call.filed) run Database.empty []

section Filing

variable {db after : Database} {around : Circumstance} {call : Call}
  {outcome : Except ServiceError Answer} {records : List CalibrationRecord}

/-- The table of records and the records on file follow a call alike. -/
theorem Step.holdsRecords (hStep : Step around db call outcome after)
    (hHolds : HoldsRecords db.records records) :
    HoldsRecords after.records (call.filed outcome records) := by
  by_cases hCatalogue : call.OnCatalogue
  · rw [(hStep.frame hCatalogue).2.1, Call.filed_of_onCatalogue hCatalogue]
    exact hHolds
  cases hStep with
  | refused error =>
      rw [Call.filed_error]
      exact hHolds
  | recordCreated hValid hLog hWrite =>
      obtain ⟨-, hNew, -, rfl⟩ := Database.insertRecord_eq_ok hWrite
      exact hHolds.concat hNew
  | recordUpdated hLoad hValid hWrite =>
      obtain ⟨-, -, rfl⟩ := (Database.updateRecord_eq_ok hWrite).found
      exact hHolds.change _
  | recordDeleted hWrite =>
      obtain ⟨-, rfl⟩ := (Database.deleteRecord_eq_ok hWrite).found
      exact hHolds.remove _
  | logCreated hWrite =>
      obtain ⟨-, -, rfl⟩ := Database.insertLog_eq_ok hWrite
      exact hHolds
  | logUpdated hLoad hWrite hCompletes =>
      obtain ⟨-, rfl⟩ := (Database.updateLog_eq_ok hWrite).found
      exact hHolds
  | logDeleted hWrite =>
      obtain ⟨-, rfl⟩ := (Database.deleteLog_eq_ok hWrite).found
      exact hHolds
  | logRead hLoad hCompletes => exact hHolds
  | logsRead hList hCompletes => exact hHolds
  | recordsRead hList => exact hHolds
  | _ => exact absurd trivial hCatalogue

/-- The table of records holds the records on file. -/
theorem holdsRecords_filedRun (run : List Occasion) :
    HoldsRecords (performAll run Database.empty).records (filedRun run) := by
  have hEmpty : HoldsRecords Database.empty.records [] := ⟨Store.Numbered.holds_nil, List.nodup_nil⟩
  refine Run.history_follows (R := fun (db : Database) => HoldsRecords db.records) hEmpty ?_ run
  intro occasion db records hHolds
  exact (step_perform occasion.call occasion.budget occasion.around db).holdsRecords hHolds

end Filing

section Completed

variable {db after : Database} {budget : Budget} {id : CalibrationLogId}

/-- A log that is answered is completed from the database that the call leaves. -/
def CompletedThere (budget : Budget) (id : CalibrationLogId)
    (outcome : Except ServiceError CalibrationLog) (after : Database) : Prop :=
  ∀ completed, outcome = .ok completed → ∃ log : CalibrationLog, log.id = id ∧ Served after log ∧
    completedFrom budget after log = .ok completed

private theorem results_complete {log : CalibrationLog} (hId : log.id = id)
    (hServed : Served db log) :
    Results (do
      let found ← complete budget log []
      return found.1) db (CompletedThere budget id) := by
  refine (yields_complete faithful_nil log).results_bind (fun error _ _ hOk => by cases hOk) ?_
  rintro ⟨completed, known⟩ _ ⟨rfl, -⟩ hCompleted
  refine results_pure fun other hOther => ?_
  cases hOther
  exact ⟨log, hId, hServed, hCompleted⟩

private theorem results_readLog (hIntact : Intact db) (id : CalibrationLogId) :
    Results (readLog budget id) db (CompletedThere budget id) := by
  refine results_load_bind (fun error _ hOk => by cases hOk) fun log hLoad => ?_
  obtain ⟨row, hRow, -, hRead⟩ := Database.loadLog_eq_ok_some hLoad
  exact results_complete (Database.loadLog_id hLoad) (served_of_row hIntact hRow hRead)

private theorem results_updateLog (id : CalibrationLogId) (patch : LogPatch)
    (now : Calendar.Instant) :
    Results (updateLog budget id patch now) db (CompletedThere budget id) := by
  have hStop : ∀ (error : ServiceError) (db : Database),
      CompletedThere budget id (.error error) db := fun error db completed hOk => by cases hOk
  refine results_load_bind (fun error => hStop error db) fun log hLoad => ?_
  have hRest : Results (do
      alter .calibrationLog id.text (Storage.updateLog { patch.apply log with updatedAt := now })
      let found ← complete budget { patch.apply log with updatedAt := now } []
      return found.1) db (CompletedThere budget id) := by
    refine results_alter_bind (fun error => hStop error db) (fun _ hWrite => ?_)
      fun after hWrite => ?_
    · exact (Database.updateLog_eq_ok hWrite).lost
    · obtain ⟨hService, rfl⟩ := (Database.updateLog_eq_ok hWrite).found
      have hId : log.id = id := Database.loadLog_id hLoad
      exact results_complete hId hService
  cases patch.lawnServiceId with
  | none => exact hRest
  | some service => exact results_load_bind (fun error => hStop error db) fun _ _ => hRest

theorem completed_of_perform {call : Call} {around : Circumstance} {log : CalibrationLog}
    (hIntact : Intact db) (hCall : call.Completes id)
    (hAnswer : call.perform budget around db = (.ok (.log log), after)) :
    ∃ stored : CalibrationLog, stored.id = id ∧ Served after stored ∧
      completedFrom budget after stored = .ok log := by
  have hMapped : ∀ action : Action Database CalibrationLog,
      Results action db (CompletedThere budget id) →
      (Answer.log <$> action).run.run db = (.ok (.log log), after) →
      ∃ stored : CalibrationLog, stored.id = id ∧ Served after stored ∧
        completedFrom budget after stored = .ok log := by
    intro action hAction hRun
    rw [run_map] at hRun
    obtain ⟨hOutcome, rfl⟩ := Prod.mk.inj hRun
    exact hAction log (eq_ok_of_map (fun _ _ hSame => Answer.log.inj hSame) hOutcome)
  cases call with
  | readLog other =>
      cases hCall
      exact hMapped _ (results_readLog hIntact id) hAnswer
  | updateLog other patch =>
      cases hCall
      exact hMapped _ (results_updateLog id patch around.now) hAnswer
  | _ => cases hCall

end Completed

/-! ### Logs against summaries -/

section Shown

variable {db : Database} {budget : Budget}

private theorem formulas_of_toLawnService {row : LawnServiceRow} {service : LawnService}
    (hRead : row.toLawnService = .ok service) :
    service.calibrationFunction = row.calibrationFunction ∧
      service.differentialCalibrationFunction = row.differentialCalibrationFunction := by
  obtain ⟨target, hTarget, hRead⟩ := Store.bind_eq_ok_iff.1 hRead
  obtain ⟨id, hId, hRead⟩ := Store.bind_eq_ok_iff.1 hRead
  obtain ⟨formulationId, hFormulation, hRead⟩ := Store.bind_eq_ok_iff.1 hRead
  obtain ⟨createdAt, hCreated, hRead⟩ := Store.bind_eq_ok_iff.1 hRead
  obtain ⟨updatedAt, hUpdated, hRead⟩ := Store.bind_eq_ok_iff.1 hRead
  cases hRead
  exact ⟨rfl, rfl⟩

/-- Records are loaded without calibrations. -/
theorem uncalibrated_of_loadRecords {log : CalibrationLogId} {records : List CalibrationRecord}
    (hLoad : db.loadRecords log = .ok records) :
    records.map CalibrationRecord.uncalibrated = records := by
  have hEach : ∀ record ∈ records, record.uncalibrated = id record := by
    intro record hRecord
    obtain ⟨row, -, -, hRead⟩ := Database.mem_loadRecords hLoad hRecord
    obtain ⟨-, -, -, hCalibration⟩ := Store.RecordRow.toRecord_eq_ok hRead
    change { record with calibration := 0.0 } = record
    rw [← hCalibration]
  rw [List.map_congr_left hEach, List.map_id]

/-- A log shows records, and what the formulas in the row of a lawn service give for them. -/
structure AgreesWithSummary (budget : Budget) (row : LawnServiceRow)
    (stored : List CalibrationRecord) (log : CalibrationLog) : Prop where
  current : log.currentCalibration = (Calibration.summarize budget row.calibrationFunction
    row.differentialCalibrationFunction (stored.map CalibrationRecord.measurement)).current
  calibrations : log.records.map CalibrationRecord.calibration =
    (Calibration.summarize budget row.calibrationFunction row.differentialCalibrationFunction
      (stored.map CalibrationRecord.measurement)).records
  /-- the same records in the same order, besides their calibrations -/
  records : log.records.map CalibrationRecord.uncalibrated = stored

theorem agrees_of_completedFrom {filed : List CalibrationRecord} {log completed : CalibrationLog}
    (hHolds : HoldsRecords db.records filed) (hServed : Served db log)
    (hCompleted : completedFrom budget db log = .ok completed) :
    completed.id = log.id ∧ ∃ row ∈ db.lawnServices, row.id = completed.lawnServiceId.text ∧
      AgreesWithSummary budget row (Store.earliestFirst CalibrationRecord.createdAt
        (filed.filter fun record => record.calibrationLogId = log.id)) completed := by
  obtain ⟨records, service, hRecords, hService, rfl⟩ := completedFrom_eq_ok hServed hCompleted
  obtain ⟨row, hRow, hId, hRead⟩ := Database.loadLawnService_eq_ok_some hService
  obtain ⟨hFormula, hDifferential⟩ := formulas_of_toLawnService hRead
  refine ⟨rfl, row, hRow, hId, ?_⟩
  rw [← loadRecords_eq_earliestFirst hHolds hRecords]
  constructor
  · rw [← hFormula, ← hDifferential]
    rfl
  · rw [← hFormula, ← hDifferential]
    exact LawnService.calibrations_calibrate service budget { log with records }
  · have hSame := LawnService.uncalibrated_calibrate service budget { log with records }
    exact (congrArg CalibrationLog.records hSame).trans (uncalibrated_of_loadRecords hRecords)

end Shown

/-- After any run, a call that hands out a log shows the records on file that belong to it, in the
order of creation, with the values that a summary of their measurements gives under the formulas
that the one row of its lawn service holds.  Under any other formulas and any other budget the call
answers the same log with the same records, or fails with the same error, and writes the same. -/
theorem completed_log_agrees_with_summary (run : List Occasion) (occasion : Occasion)
    (id : CalibrationLogId) (hCall : occasion.call.Completes id) :
    (∀ (log : CalibrationLog) (after : Database),
      occasion.perform (performAll run Database.empty) = (.ok (.log log), after) →
        log.id = id ∧ ∃ row,
          (∀ other, other ∈ after.lawnServices ∧ other.id = log.lawnServiceId.text ↔ other = row) ∧
          AgreesWithSummary occasion.budget row (Store.earliestFirst CalibrationRecord.createdAt
            ((filedRun run).filter fun record => record.calibrationLogId = id)) log) ∧
      ∀ (formulas : LawnServiceRow → String × String) (budget : Budget),
        let other := (performAll run Database.empty).reformulated formulas
        Agree SameUncalibrated (occasion.perform (performAll run Database.empty)).1
            (occasion.call.perform budget occasion.around other).1 ∧
          (occasion.call.perform budget occasion.around other).2 =
            (occasion.perform (performAll run Database.empty)).2.reformulated formulas := by
  refine ⟨fun log after hAnswer => ?_, fun formulas budget => perform_reformulated hCall _⟩
  have hIntact := intact_performAll run
  obtain ⟨stored, rfl, hServed, hCompleted⟩ := completed_of_perform hIntact hCall hAnswer
  have hStep := step_perform occasion.call occasion.budget occasion.around
    (performAll run Database.empty)
  change Step _ _ _ (occasion.perform _).1 (occasion.perform _).2 at hStep
  rw [hAnswer] at hStep
  have hAfter : Intact after := hStep.intact hIntact
  have hHolds : HoldsRecords after.records (filedRun run) := by
    rw [← Call.filed_of_completes hCall (.ok (.log log)) (filedRun run)]
    exact hStep.holdsRecords (holdsRecords_filedRun run)
  obtain ⟨hId, row, hRow, hKey, hAgrees⟩ := agrees_of_completedFrom hHolds hServed hCompleted
  refine ⟨hId, row, fun other => ⟨fun hOther => ?_, ?_⟩, hAgrees⟩
  · exact List.inj_on_of_nodup_map hAfter.lawnServiceIds hOther.1 hRow (hOther.2.trans hKey.symm)
  · rintro rfl
    exact ⟨hRow, hKey⟩

/-- A log of one record, which was spread on no area: its rate divides by zero. -/
def bareAreaRun : List Occasion :=
  let morning := Calendar.Instant.startOfDay ⟨2025, 5, 1, by decide⟩
  [⟨.createFormulation ⟨"Granular"⟩, ⟨100⟩, ⟨morning, 1⟩⟩,
    ⟨.createLawnService ⟨"FERT", "Fertilizer", ⟨1⟩, 3.5, "kg", "g", "current_amount / current_area",
      "current_amount - previous_amount"⟩, ⟨100⟩, ⟨morning, 2⟩⟩,
    ⟨.createLog ⟨⟨2⟩⟩ ⟨8⟩, ⟨100⟩, ⟨morning, 3⟩⟩,
    ⟨.createRecord ⟨3⟩ ⟨1.5, "g", 0⟩, ⟨100⟩, ⟨morning, 4⟩⟩]

def bareAreaChange : Occasion :=
  ⟨.updateLog ⟨3⟩ ⟨some ⟨9⟩, none⟩, ⟨100⟩,
    ⟨Calendar.Instant.startOfDay ⟨2025, 5, 2, by decide⟩, 5⟩⟩

def bareAreaLog : CalibrationLog :=
  let morning := Calendar.Instant.startOfDay ⟨2025, 5, 1, by decide⟩
  ⟨⟨3⟩, ⟨9⟩, ⟨2⟩, morning, Calendar.Instant.startOfDay ⟨2025, 5, 2, by decide⟩, none, none,
    [⟨⟨4⟩, ⟨3⟩, 1.5, "g", 0, morning, morning, 1.5⟩]⟩

private theorem bareAreaChange_answered :
    (bareAreaChange.perform (performAll bareAreaRun Database.empty)).1 =
      .ok (.log bareAreaLog) := by
  decide +kernel

/-- The summary of that record leaves out the same value and has the same value of the record. -/
theorem bareAreaLog_agrees_with_summary :
    ∃ row, row ∈ (performAll (bareAreaRun ++ [bareAreaChange]) Database.empty).lawnServices ∧
      AgreesWithSummary ⟨100⟩ row (Store.earliestFirst CalibrationRecord.createdAt
        ((filedRun bareAreaRun).filter fun record => record.calibrationLogId = ⟨3⟩))
        bareAreaLog := by
  obtain ⟨hShown, -⟩ := completed_log_agrees_with_summary bareAreaRun bareAreaChange ⟨3⟩ rfl
  obtain ⟨-, row, hRow, hAgrees⟩ :=
    hShown bareAreaLog _ (perform_eq_of_answer bareAreaChange_answered)
  exact ⟨row, ((hRow row).2 rfl).1, hAgrees⟩

end LawnCalibration.Service
