import LawnCalibration.Proofs.Calibration.Engine
import LawnCalibration.Proofs.Entity.Coding
import LawnCalibration.Proofs.Service.Readings

/-
Answers as documents.

An entity is read back from its document if its numbers are finite.  They are in
every answer: what is stored was checked before, and what is computed is checked
when it is computed.
-/

set_option autoImplicit false

namespace LawnCalibration

open Formula (Budget)

namespace Item

def ReadsBack : Item → Prop
  | .unit value => MeasureUnit.ofDocument? value.toDocument = some value
  | .formulation value => Formulation.ofDocument? value.toDocument = some value
  | .lawnService value => LawnService.ofDocument? value.toDocument = some value
  | .log value => CalibrationLog.ofDocument? value.toDocument = some value
  | .record value => CalibrationRecord.ofDocument? value.toDocument = some value

def Finite : Item → Prop
  | .unit _ => True
  | .formulation _ => True
  | .lawnService value => value.targetCalibrationValue.isFinite = true
  | .log value => value.Finite
  | .record value => value.Finite

theorem readsBack_iff (item : Item) : item.ReadsBack ↔ item.Finite := by
  cases item with
  | unit value => exact iff_of_true value.ofDocument?_toDocument trivial
  | formulation value => exact iff_of_true value.ofDocument?_toDocument trivial
  | lawnService value => exact value.ofDocument?_toDocument_iff
  | log value => exact value.ofDocument?_toDocument_iff
  | record value => exact value.ofDocument?_toDocument_iff

end Item

namespace Store

theorem LawnServiceRow.isFinite_of_toLawnService {row : LawnServiceRow} (hSound : row.Sound)
    {service : LawnService} (hRead : row.toLawnService = .ok service) :
    service.targetCalibrationValue.isFinite = true := by
  obtain ⟨-, target, hTarget, hFinite, -⟩ := hSound
  obtain ⟨value, hValue, hRead⟩ := bind_eq_ok_iff.1 hRead
  obtain ⟨id, hId, hRead⟩ := bind_eq_ok_iff.1 hRead
  obtain ⟨formulationId, hFormulation, hRead⟩ := bind_eq_ok_iff.1 hRead
  obtain ⟨createdAt, hCreated, hRead⟩ := bind_eq_ok_iff.1 hRead
  obtain ⟨updatedAt, hUpdated, hRead⟩ := bind_eq_ok_iff.1 hRead
  rw [hTarget] at hValue
  cases hValue
  cases hRead
  exact hFinite

theorem RecordRow.finite_of_toRecord {row : RecordRow} (hSound : row.Sound)
    {record : CalibrationRecord} (hRead : row.toRecord = .ok record) : record.Finite := by
  obtain ⟨-, -, -, hCalibration⟩ := RecordRow.toRecord_eq_ok hRead
  obtain ⟨-, stored, hStored, hFinite⟩ := hSound
  obtain ⟨value, hValue, hRead⟩ := bind_eq_ok_iff.1 hRead
  obtain ⟨area, hArea, hRead⟩ := bind_eq_ok_iff.1 hRead
  obtain ⟨id, hId, hRead⟩ := bind_eq_ok_iff.1 hRead
  obtain ⟨logId, hLog, hRead⟩ := bind_eq_ok_iff.1 hRead
  obtain ⟨createdAt, hCreated, hRead⟩ := bind_eq_ok_iff.1 hRead
  obtain ⟨updatedAt, hUpdated, hRead⟩ := bind_eq_ok_iff.1 hRead
  rw [hStored] at hValue
  cases hValue
  cases hRead
  exact ⟨hFinite, Calibration.isFinite_zero⟩

end Store

/-- The calibrations of a log are finite if the measurements of its records are. -/
theorem LawnService.finite_calibrate (service : LawnService) (budget : Budget)
    {log : CalibrationLog} (hRecords : ∀ record ∈ log.records, record.Finite) :
    (service.calibrate budget log).Finite := by
  constructor
  · intro value hValue
    exact Calibration.isFinite_currentCalibration hValue
  · rw [LawnService.records_calibrate]
    refine List.forall_mem_map.2 ?_
    rintro ⟨record, value⟩ hPair
    obtain ⟨hRecord, hValue⟩ := List.of_mem_zip hPair
    exact ⟨(hRecords record hRecord).1, Calibration.isFinite_differentialCalibrations value hValue⟩

namespace Service

open Store (Database)
open Store.Database (Intact)
open Service.Action

section Answers

variable {db : Database}

private theorem finite_of_loadRecords (hIntact : Intact db) {id : CalibrationLogId}
    {records : List CalibrationRecord} (hLoad : db.loadRecords id = .ok records) :
    ∀ record ∈ records, record.Finite := by
  intro record hRecord
  obtain ⟨row, hRow, -, hRead⟩ := Database.mem_loadRecords hLoad hRecord
  exact Store.RecordRow.finite_of_toRecord (hIntact.records row hRow) hRead

private theorem finite_of_bare {log : CalibrationLog} (hCalibration : log.currentCalibration = none)
    (hRecords : log.records = []) : log.Finite := by
  constructor
  · intro value hValue
    rw [hCalibration] at hValue
    cases hValue
  · rw [hRecords]
    exact List.forall_mem_nil _

theorem Attaches.finite {log completed : CalibrationLog} (hAttaches : Attaches db log completed)
    (hIntact : Intact db) (hBare : log.currentCalibration = none) : completed.Finite := by
  obtain ⟨records, hLoad, hCompleted⟩ := hAttaches
  have hRecords := finite_of_loadRecords hIntact hLoad
  rcases hCompleted with rfl | ⟨budget, service, rfl⟩
  · refine ⟨?_, hRecords⟩
    intro value hValue
    have hSome : log.currentCalibration = some value := hValue
    rw [hBare] at hSome
    cases hSome
  · exact service.finite_calibrate budget hRecords

private theorem calibration_of_toLog {row : Store.LogRow} {log : CalibrationLog}
    (hRead : row.toLog = .ok log) : log.currentCalibration = none :=
  (Store.LogRow.toLog_eq_ok hRead).2.2.2.2.2.2.1

private theorem finite_ofLog {log : CalibrationLog} (hFinite : log.Finite) :
    ∀ item ∈ Answer.ofLog log, item.Finite :=
  List.forall_mem_cons.2 ⟨hFinite, List.forall_mem_map.2 hFinite.2⟩

/-- Reading calls show what is stored, which is finite, and calibrations. -/
private theorem finite_reading (hIntact : Intact db) {call : Call} (hReading : call.IsReading)
    (budget : Budget) (around : Circumstance) :
    Results (call.action budget around) db fun outcome _ => ShowsOnly Item.Finite outcome := by
  cases call with
  | readUnits => exact results_list_showsOnly (fun _ => rfl) fun _ _ _ _ => trivial
  | readFormulations => exact results_list_showsOnly (fun _ => rfl) fun _ _ _ _ => trivial
  | readLawnServices =>
      refine results_list_showsOnly (fun _ => rfl) fun services hList service hService => ?_
      obtain ⟨row, hRow, hRead⟩ := Database.mem_listLawnServices hList hService
      exact Store.LawnServiceRow.isFinite_of_toLawnService (hIntact.lawnServices row hRow) hRead
  | readLawnService id =>
      refine results_map (results_load showsOnly_error fun service hLoad => showsOnly_ok ?_)
      obtain ⟨row, hRow, -, hRead⟩ := Database.loadLawnService_eq_ok_some hLoad
      have hFinite := Store.LawnServiceRow.isFinite_of_toLawnService
        (hIntact.lawnServices row hRow) hRead
      exact List.forall_mem_singleton.2 hFinite
  | readLog id =>
      refine results_map (results_load_bind showsOnly_error fun log hLoad => ?_)
      obtain ⟨row, -, -, hRead⟩ := Database.loadLog_eq_ok_some hLoad
      apply results_complete_bind_of
      · intro error _
        exact showsOnly_error _
      · intro completed known hAttaches
        have hBare := calibration_of_toLog hRead
        exact results_pure (showsOnly_ok (finite_ofLog (hAttaches.finite hIntact hBare)))
  | readLogs filter =>
      refine results_map (results_query_bind showsOnly_error fun logs hList => ?_)
      rw [← bind_pure (completeAll budget logs [])]
      apply results_completeAll_bind_of
      · intro log _ error _
        exact showsOnly_error _
      · intro completed hAttaches
        refine results_pure (showsOnly_ok fun item hItem => ?_)
        obtain ⟨shown, hShown, hInside⟩ := List.mem_flatMap.1 hItem
        obtain ⟨log, hLog, hOne⟩ := Store.exists_of_forall₂ hAttaches hShown
        obtain ⟨row, -, -, hRead⟩ := Database.mem_listLogs hList hLog
        have hBare := calibration_of_toLog hRead
        exact finite_ofLog (hOne.finite hIntact hBare) item hInside
  | readRecords filter =>
      refine results_list_showsOnly (fun _ => rfl) fun records hList record hRecord => ?_
      obtain ⟨row, hRow, hRead, -⟩ := Database.mem_listRecords hList hRecord
      exact Store.RecordRow.finite_of_toRecord (hIntact.records row hRow) hRead
  | _ => cases hReading

/-- The change of a log answers the log as it is read afterwards. -/
private theorem finite_updateLog (hIntact : Intact db) (id : CalibrationLogId) (patch : LogPatch)
    (budget : Budget) (around : Circumstance) :
    ShowsOnly Item.Finite ((Call.updateLog id patch).perform budget around db).1 := by
  cases hCall : (Call.updateLog id patch).perform budget around db with
  | mk outcome after =>
  obtain ⟨result, rfl, hUpdate⟩ := logUpdate_perform hCall
  cases hUpdate with
  | refused error => exact showsOnly_error error
  | unread hLoad hService hWrite hFails => exact showsOnly_error _
  | done hLoad hService hWrite hAttaches =>
      obtain ⟨row, -, -, hRead⟩ := Database.loadLog_eq_ok_some hLoad
      have hBare := calibration_of_toLog hRead
      have hAfter := hIntact.updateLog hWrite
      exact showsOnly_ok (finite_ofLog (hAttaches.finite hAfter hBare))

/-- Other calls show what they have checked, besides the change of a log. -/
private theorem finite_writing (hIntact : Intact db) {call : Call} (hWriting : ¬ call.IsReading)
    (budget : Budget) (around : Circumstance) :
    ShowsOnly Item.Finite (call.perform budget around db).1 := by
  have hStep := step_perform call budget around db
  cases hCall : call.perform budget around db with
  | mk outcome after =>
  rw [hCall] at hStep
  cases hStep with
  | refused _ error => exact showsOnly_error error
  | unitCreated hValid hWrite => exact showsOnly_ok (List.forall_mem_singleton.2 trivial)
  | unitUpdated hLoad hValid hWrite => exact showsOnly_ok (List.forall_mem_singleton.2 trivial)
  | formulationCreated hValid hWrite => exact showsOnly_ok (List.forall_mem_singleton.2 trivial)
  | formulationUpdated hLoad hValid hWrite =>
      exact showsOnly_ok (List.forall_mem_singleton.2 trivial)
  | lawnServiceCreated hValid hWrite =>
      have hTarget := (LawnServiceDraft.validate_eq_ok_iff.1 hValid).2.1
      exact showsOnly_ok (List.forall_mem_singleton.2 hTarget)
  | lawnServiceUpdated hLoad hValid hWrite =>
      have hTarget := (LawnServiceDraft.validate_eq_ok_iff.1 hValid).2.1
      exact showsOnly_ok (List.forall_mem_singleton.2 hTarget)
  | logCreated hWrite =>
      exact showsOnly_ok (List.forall_mem_singleton.2 (finite_of_bare rfl rfl))
  | @logUpdated id patch log result after hLoad hWrite hCompletes =>
      have hFinite := finite_updateLog hIntact id patch budget around
      rw [hCall] at hFinite
      exact hFinite
  | recordCreated hValid hLog hWrite =>
      have hValue := (validateMeasurement_eq_ok_iff.1 hValid).2
      exact showsOnly_ok (List.forall_mem_singleton.2 ⟨hValue, Calibration.isFinite_zero⟩)
  | recordUpdated hLoad hValid hWrite =>
      obtain ⟨row, hRow, -, hRead⟩ := Database.loadRecord_eq_ok_some hLoad
      have hStored := Store.RecordRow.finite_of_toRecord (hIntact.records row hRow) hRead
      have hValue := (validateMeasurement_eq_ok_iff.1 hValid).2
      exact showsOnly_ok (List.forall_mem_singleton.2 ⟨hValue, hStored.2⟩)
  | logDeleted hWrite => exact showsOnly_ok (List.forall_mem_nil _)
  | recordDeleted hWrite => exact showsOnly_ok (List.forall_mem_nil _)
  | _ => exact absurd trivial hWriting

theorem finite_perform (hIntact : Intact db) (call : Call) (budget : Budget)
    (around : Circumstance) : ShowsOnly Item.Finite (call.perform budget around db).1 := by
  by_cases hReading : call.IsReading
  · exact finite_reading hIntact hReading budget around
  · exact finite_writing hIntact hReading budget around

end Answers

/-- An entity of any kind is read back from its document exactly if its numbers are finite.  After
any run every entity of an answer has finite numbers only, and so it is read back. -/
theorem answers_read_back :
    (∀ item : Item, item.ReadsBack ↔ item.Finite) ∧
    ∀ (run : List Occasion) (occasion : Occasion) (answer : Answer),
      (occasion.perform (performAll run Database.empty)).1 = .ok answer →
        ∀ item ∈ answer.items, item.Finite ∧ item.ReadsBack := by
  refine ⟨Item.readsBack_iff, ?_⟩
  intro run occasion answer hAnswer item hItem
  have hFinite : item.Finite := finite_perform (intact_performAll run) occasion.call
    occasion.budget occasion.around answer hAnswer item hItem
  exact ⟨hFinite, item.readsBack_iff.2 hFinite⟩

def leapMoment : Calendar.Instant :=
  { Calendar.Instant.endOfDay ⟨2016, 12, 31, by decide⟩ with
    nano := 1500000000
    nano_lt := by decide
    leap := fun _ => rfl }

/-- A log of one record, whose own formula divides by the amount before: there is none. -/
def leapRun : List Occasion :=
  [⟨.createFormulation ⟨"Liquid"⟩, ⟨100⟩, ⟨leapMoment, 1⟩⟩,
    ⟨.createLawnService ⟨"WEED", "Weed control", ⟨1⟩, 0.25, "l", "ml", "current_amount / 2",
      "current_amount / previous_amount"⟩, ⟨100⟩, ⟨leapMoment, 2⟩⟩,
    ⟨.createLog ⟨⟨2⟩⟩ ⟨7⟩, ⟨100⟩, ⟨leapMoment, 3⟩⟩,
    ⟨.createRecord ⟨3⟩ ⟨2.5, "ml", 40⟩, ⟨100⟩, ⟨leapMoment, 4⟩⟩]

def leapLog : CalibrationLog :=
  ⟨⟨3⟩, ⟨7⟩, ⟨2⟩, leapMoment, leapMoment, none, some 1.25,
    [⟨⟨4⟩, ⟨3⟩, 2.5, "ml", 40, leapMoment, leapMoment, 0.0⟩]⟩

private theorem leapLog_answered :
    (Occasion.perform ⟨.readLog ⟨3⟩, ⟨100⟩, ⟨leapMoment, 5⟩⟩
      (performAll leapRun Database.empty)).1 = .ok (.log leapLog) := by
  decide +kernel

theorem leapLog_reads_back : leapLog.Finite ∧
    CalibrationLog.ofDocument? leapLog.toDocument = some leapLog := by
  obtain ⟨-, hAnswers⟩ := answers_read_back
  exact hAnswers leapRun _ _ leapLog_answered (.log leapLog) List.mem_cons_self

end Service

end LawnCalibration
