import LawnCalibration.Proofs.Service.Runs
import LawnCalibration.Proofs.Store.Rows

/-
What the deletion of a log covers.

The row of a deleted log stays as it is and the log is never handed out again.
Its records are reached through their log, which hides them, and by their own
identifiers, which does not: they are covered just as long as no change and no
deletion of one of them succeeds.
-/

set_option autoImplicit false

namespace LawnCalibration.Service

open Formula (Budget)
open Store (Database LogRow RecordRow)
open Store.Database (Intact)

namespace Answer

def handedLogs : Answer → List CalibrationLog
  | .log value => [value]
  | .logs values => values
  | _ => []

def handedRecords : Answer → List CalibrationRecord
  | .record value => [value]
  | .records values => values
  | .log value => value.records
  | .logs values => values.flatMap CalibrationLog.records
  | _ => []

end Answer

/-- A call and its outcome leave a row of a log alone and do not hand the log out. -/
def LogCovered (row : LogRow) (result : Except ServiceError Answer × Database) : Prop :=
  row ∈ result.2.logs ∧
    ∀ answer, result.1 = .ok answer → ∀ log ∈ answer.handedLogs, log.id.text ≠ row.id

/-- A call and its outcome leave rows of records alone and hand out none of these records. -/
def RecordsCovered (rows : List RecordRow) (result : Except ServiceError Answer × Database) : Prop :=
  (∀ row ∈ rows, row ∈ result.2.records) ∧
    ∀ answer, result.1 = .ok answer → ∀ record ∈ answer.handedRecords, ∀ row ∈ rows,
      record.id.text ≠ row.id

def recordsOf (log : CalibrationLogId) (db : Database) : List RecordRow :=
  db.records.filter fun row => row.calibrationLogId == log.text

/-- A call asks for the change or the deletion of one of some records by its identifier. -/
def Addresses (call : Call) (rows : List RecordRow) : Prop :=
  ∃ id, (call = .deleteRecord id ∨ ∃ patch, call = .updateRecord id patch) ∧
    id.text ∈ rows.map RecordRow.id

private theorem logCovered_error {row : LogRow} {error : ServiceError} {after : Database}
    (hStored : row ∈ after.logs) : LogCovered row (.error error, after) :=
  ⟨hStored, fun _ hOk => by cases hOk⟩

private theorem logCovered_ok {row : LogRow} {answer : Answer} {after : Database}
    (hStored : row ∈ after.logs) (hOthers : ∀ log ∈ answer.handedLogs, log.id.text ≠ row.id) :
    LogCovered row (.ok answer, after) := by
  refine ⟨hStored, fun other hOk => ?_⟩
  cases hOk
  exact hOthers

private theorem recordsCovered_error {rows : List RecordRow} {error : ServiceError}
    {after : Database}
    (hStored : ∀ row ∈ rows, row ∈ after.records) : RecordsCovered rows (.error error, after) :=
  ⟨hStored, fun _ hOk => by cases hOk⟩

private theorem recordsCovered_ok {rows : List RecordRow} {answer : Answer} {after : Database}
    (hStored : ∀ row ∈ rows, row ∈ after.records)
    (hOthers : ∀ record ∈ answer.handedRecords, ∀ row ∈ rows, record.id.text ≠ row.id) :
    RecordsCovered rows (.ok answer, after) := by
  refine ⟨hStored, fun other hOk => ?_⟩
  cases hOk
  exact hOthers

section Keys

variable {db : Database}

private theorem eq_of_logId (hIntact : Intact db) {row other : LogRow} (hRow : row ∈ db.logs)
    (hOther : other ∈ db.logs) (hSame : row.id = other.id) : row = other :=
  List.inj_on_of_nodup_map hIntact.logIds hRow hOther hSame

private theorem eq_of_recordId (hIntact : Intact db) {row other : RecordRow}
    (hRow : row ∈ db.records)
    (hOther : other ∈ db.records) (hSame : row.id = other.id) : row = other :=
  List.inj_on_of_nodup_map hIntact.recordIds hRow hOther hSame

private theorem logId_of_toLog (hIntact : Intact db) {row : LogRow} (hRow : row ∈ db.logs)
    {log : CalibrationLog} (hRead : row.toLog = .ok log) : row.id = log.id.text :=
  Store.eq_text_of_readIdentifier (Store.LogRow.toLog_eq_ok hRead).1 (hIntact.logTexts row hRow)

private theorem recordId_of_toRecord (hIntact : Intact db) {row : RecordRow}
    (hRow : row ∈ db.records)
    {record : CalibrationRecord} (hRead : row.toRecord = .ok record) : row.id = record.id.text :=
  Store.eq_text_of_readIdentifier (Store.RecordRow.toRecord_eq_ok hRead).1
    (hIntact.recordTexts row hRow)

/-- A record that is changed keeps the identifier by which it was asked for. -/
theorem loadRecord_id (hIntact : Intact db) {id : CalibrationRecordId} {record : CalibrationRecord}
    (hLoad : db.loadRecord id = .ok (some record)) : record.id = id := by
  obtain ⟨row, hRow, hId, hRead⟩ := Database.loadRecord_eq_ok_some hLoad
  exact Identifier.text_injective ((recordId_of_toRecord hIntact hRow hRead).symm.trans hId)

end Keys

def Call.OnCatalogue : Call → Prop
  | .createUnit _ | .readUnits | .updateUnit _ _ => True
  | .createFormulation _ | .readFormulations | .updateFormulation _ _ => True
  | .createLawnService _ | .readLawnServices | .readLawnService _ | .updateLawnService _ _ => True
  | _ => False

/-- They leave logs and records alone and hand none out. -/
theorem Step.frame {db after : Database} {around : Circumstance} {call : Call}
    {outcome : Except ServiceError Answer} (hStep : Step around db call outcome after)
    (hCatalogue : call.OnCatalogue) :
    after.logs = db.logs ∧ after.records = db.records ∧
      ∀ answer, outcome = .ok answer → answer.handedLogs = [] ∧ answer.handedRecords = [] := by
  have hHanded : ∀ answer other : Answer, answer.handedLogs = [] → answer.handedRecords = [] →
      (Except.ok answer : Except ServiceError Answer) = .ok other →
        other.handedLogs = [] ∧ other.handedRecords = [] := by
    intro answer other hLogs hRecords hOk
    cases hOk
    exact ⟨hLogs, hRecords⟩
  cases hStep with
  | refused error => exact ⟨rfl, rfl, fun _ hOk => by cases hOk⟩
  | unitCreated hValid hWrite =>
      obtain ⟨-, rfl⟩ := Database.insertUnit_eq_ok hWrite
      exact ⟨rfl, rfl, fun other => hHanded _ other rfl rfl⟩
  | unitUpdated hLoad hValid hWrite =>
      have hAfter := (Database.updateUnit_eq_ok hWrite).found
      exact ⟨hAfter ▸ rfl, hAfter ▸ rfl, fun other => hHanded _ other rfl rfl⟩
  | formulationCreated hValid hWrite =>
      obtain ⟨-, -, rfl⟩ := Database.insertFormulation_eq_ok hWrite
      exact ⟨rfl, rfl, fun other => hHanded _ other rfl rfl⟩
  | formulationUpdated hLoad hValid hWrite =>
      obtain ⟨-, rfl⟩ := (Database.updateFormulation_eq_ok hWrite).found
      exact ⟨rfl, rfl, fun other => hHanded _ other rfl rfl⟩
  | lawnServiceCreated hValid hWrite =>
      obtain ⟨-, -, -, -, rfl⟩ := Database.insertLawnService_eq_ok hWrite
      exact ⟨rfl, rfl, fun other => hHanded _ other rfl rfl⟩
  | lawnServiceUpdated hLoad hValid hWrite =>
      obtain ⟨-, -, -, rfl⟩ := (Database.updateLawnService_eq_ok hWrite).found
      exact ⟨rfl, rfl, fun other => hHanded _ other rfl rfl⟩
  | unitsRead units => exact ⟨rfl, rfl, fun other => hHanded _ other rfl rfl⟩
  | formulationsRead formulations => exact ⟨rfl, rfl, fun other => hHanded _ other rfl rfl⟩
  | lawnServicesRead services => exact ⟨rfl, rfl, fun other => hHanded _ other rfl rfl⟩
  | lawnServiceRead service => exact ⟨rfl, rfl, fun other => hHanded _ other rfl rfl⟩
  | _ => cases hCatalogue

/-! ### The log -/

structure LogBuried (row : LogRow) (db : Database) : Prop where
  stored : row ∈ db.logs
  deleted : row.isLive = false

section Log

variable {db after : Database} {row : LogRow} {around : Circumstance} {call : Call}
  {outcome : Except ServiceError Answer}

theorem LogBuried.ne_of_live (hBuried : LogBuried row db) (hIntact : Intact db) {other : LogRow}
    (hOther : other ∈ db.logs) (hLive : other.isLive = true) : other.id ≠ row.id := by
  intro hSame
  rw [eq_of_logId hIntact hOther hBuried.stored hSame, hBuried.deleted] at hLive
  cases hLive

theorem LogBuried.ne_of_loadLog (hBuried : LogBuried row db) (hIntact : Intact db)
    {id : CalibrationLogId} {log : CalibrationLog} (hLoad : db.loadLog id = .ok (some log)) :
    log.id.text ≠ row.id := by
  obtain ⟨other, hOther, hLive, hRead⟩ := Database.loadLog_eq_ok_some hLoad
  rw [← logId_of_toLog hIntact hOther hRead]
  exact hBuried.ne_of_live hIntact hOther (Bool.and_eq_true_iff.1 hLive).2

theorem LogBuried.ne_of_listLogs (hBuried : LogBuried row db) (hIntact : Intact db)
    {filter : LogFilter} {logs : List CalibrationLog} (hList : db.listLogs filter = .ok logs) :
    ∀ log ∈ logs, log.id.text ≠ row.id := by
  intro log hLog
  obtain ⟨other, hOther, hLive, hRead⟩ := Database.mem_listLogs hList hLog
  rw [← logId_of_toLog hIntact hOther hRead]
  exact hBuried.ne_of_live hIntact hOther hLive

/-- Changes of live logs pass a deleted one by. -/
theorem LogBuried.changeRows (hBuried : LogBuried row db) {id : String} {change : LogRow → LogRow} :
    row ∈ Store.changeRows (Database.isLiveLog id) change db.logs := by
  refine Store.mem_changeRows_iff.2 ⟨row, hBuried.stored, .inr ⟨?_, rfl⟩⟩
  simp [Database.isLiveLog, hBuried.deleted]

/-- A deleted log is covered from any call on, whatever the call is. -/
theorem Step.logCovered (hStep : Step around db call outcome after) (hIntact : Intact db)
    (hBuried : LogBuried row db) : LogCovered row (outcome, after) := by
  by_cases hCatalogue : call.OnCatalogue
  · obtain ⟨hLogs, -, hHanded⟩ := hStep.frame hCatalogue
    have hStored : row ∈ after.logs := hLogs ▸ hBuried.stored
    cases outcome with
    | error error => exact logCovered_error hStored
    | ok answer =>
        refine logCovered_ok hStored ?_
        rw [(hHanded answer rfl).1]
        exact List.forall_mem_nil _
  cases hStep with
  | refused error => exact logCovered_error hBuried.stored
  | logCreated hWrite =>
      obtain ⟨hFresh, -, rfl⟩ := Database.insertLog_eq_ok hWrite
      refine logCovered_ok (List.mem_append_left _ hBuried.stored) (List.forall_mem_singleton.2 ?_)
      intro hSame
      exact hFresh (hSame ▸ List.mem_map_of_mem hBuried.stored)
  | logRead hLoad hCompletes =>
      refine logCovered_ok hBuried.stored (List.forall_mem_singleton.2 ?_)
      exact hCompletes.1 ▸ hBuried.ne_of_loadLog hIntact hLoad
  | logsRead hList hCompletes =>
      refine logCovered_ok hBuried.stored fun log hLog => ?_
      obtain ⟨stored, hStored, hSame⟩ := Store.exists_of_forall₂ hCompletes hLog
      rw [hSame.1]
      exact hBuried.ne_of_listLogs hIntact hList stored hStored
  | @logUpdated id patch log result after hLoad hWrite hCompletes =>
      obtain ⟨-, rfl⟩ := (Database.updateLog_eq_ok hWrite).found
      cases result with
      | error error => exact logCovered_error hBuried.changeRows
      | ok completed =>
          have hId : completed.id = log.id := (hCompletes completed rfl).1
          refine logCovered_ok hBuried.changeRows (List.forall_mem_singleton.2 ?_)
          exact hId ▸ hBuried.ne_of_loadLog hIntact hLoad
  | logDeleted hWrite =>
      obtain ⟨-, rfl⟩ := (Database.deleteLog_eq_ok hWrite).found
      exact logCovered_ok hBuried.changeRows (List.forall_mem_nil _)
  | recordCreated hValid hLog hWrite =>
      obtain ⟨-, -, -, rfl⟩ := Database.insertRecord_eq_ok hWrite
      exact logCovered_ok hBuried.stored (List.forall_mem_nil _)
  | recordsRead hList => exact logCovered_ok hBuried.stored (List.forall_mem_nil _)
  | recordUpdated hLoad hValid hWrite =>
      obtain ⟨-, -, rfl⟩ := (Database.updateRecord_eq_ok hWrite).found
      exact logCovered_ok hBuried.stored (List.forall_mem_nil _)
  | recordDeleted hWrite =>
      obtain ⟨-, rfl⟩ := (Database.deleteRecord_eq_ok hWrite).found
      exact logCovered_ok hBuried.stored (List.forall_mem_nil _)
  | _ => exact absurd trivial hCatalogue

end Log

/-! ### Its records -/

structure RecordsBuried (log : LogRow) (rows : List RecordRow) (db : Database) : Prop where
  stored : ∀ row ∈ rows, row ∈ db.records
  belongs : ∀ row ∈ rows, row.calibrationLogId = log.id

section Records

variable {db after : Database} {log : LogRow} {rows : List RecordRow} {around : Circumstance}
  {call : Call} {outcome : Except ServiceError Answer}

/-- A record of another log is none of the rows. -/
theorem RecordsBuried.ne_of_other (hBuried : RecordsBuried log rows db) (hIntact : Intact db)
    {other : RecordRow} (hOther : other ∈ db.records) (hLog : other.calibrationLogId ≠ log.id)
    {record : CalibrationRecord} (hRead : other.toRecord = .ok record) :
    ∀ row ∈ rows, record.id.text ≠ row.id := by
  intro row hRow hSame
  have hId := (recordId_of_toRecord hIntact hOther hRead).trans hSame
  have hEq := eq_of_recordId hIntact hOther (hBuried.stored row hRow) hId
  exact hLog (hEq ▸ hBuried.belongs row hRow)

theorem RecordsBuried.ne_of_completes (hBuried : RecordsBuried log rows db) (hIntact : Intact db)
    {found completed : CalibrationLog} (hCompletes : Completes db found completed)
    (hOther : found.id.text ≠ log.id) :
    ∀ record ∈ completed.records, ∀ row ∈ rows, record.id.text ≠ row.id := by
  obtain ⟨-, records, hLoad, hRecords⟩ := hCompletes
  intro record hRecord
  obtain ⟨stored, hStored, hSame⟩ := hRecords record hRecord
  obtain ⟨other, hMember, hLog, hRead⟩ := Database.mem_loadRecords hLoad hStored
  rw [hSame]
  exact hBuried.ne_of_other hIntact hMember (hLog ▸ hOther) hRead

/-- A change of another record keeps the rows. -/
theorem RecordsBuried.changeRows (hBuried : RecordsBuried log rows db) {id : String}
    {change : RecordRow → RecordRow} (hOthers : ∀ row ∈ rows, row.id ≠ id) :
    ∀ row ∈ rows, row ∈ Store.changeRows (fun row => row.id == id) change db.records := by
  intro row hRow
  refine Store.mem_changeRows_iff.2 ⟨row, hBuried.stored row hRow, .inr ⟨?_, rfl⟩⟩
  exact beq_eq_false_iff_ne.2 (hOthers row hRow)

private theorem ne_of_not_addresses {id : CalibrationRecordId} (hOther : ¬ Addresses call rows)
    (hCall : call = .deleteRecord id ∨ ∃ patch, call = .updateRecord id patch) :
    ∀ row ∈ rows, row.id ≠ id.text := by
  intro row hRow hSame
  exact hOther ⟨id, hCall, hSame ▸ List.mem_map_of_mem hRow⟩

/-- The records of a deleted log are covered from a call on that does not succeed in changing or
deleting one of them by its identifier. -/
theorem Step.recordsCovered (hStep : Step around db call outcome after) (hIntact : Intact db)
    (hLog : LogBuried log db) (hBuried : RecordsBuried log rows db)
    (hGuard : Addresses call rows → ∃ error, outcome = .error error) :
    RecordsCovered rows (outcome, after) := by
  by_cases hCatalogue : call.OnCatalogue
  · obtain ⟨-, hRecords, hHanded⟩ := hStep.frame hCatalogue
    have hStored : ∀ row ∈ rows, row ∈ after.records := hRecords ▸ hBuried.stored
    cases outcome with
    | error error => exact recordsCovered_error hStored
    | ok answer =>
        refine recordsCovered_ok hStored ?_
        rw [(hHanded answer rfl).2]
        exact List.forall_mem_nil _
  cases hStep with
  | refused error => exact recordsCovered_error hBuried.stored
  | logCreated hWrite =>
      obtain ⟨-, -, rfl⟩ := Database.insertLog_eq_ok hWrite
      exact recordsCovered_ok hBuried.stored (List.forall_mem_nil _)
  | logRead hLoad hCompletes =>
      exact recordsCovered_ok hBuried.stored
        (hBuried.ne_of_completes hIntact hCompletes (hLog.ne_of_loadLog hIntact hLoad))
  | logsRead hList hCompletes =>
      refine recordsCovered_ok hBuried.stored fun record hRecord => ?_
      obtain ⟨completed, hCompleted, hWithin⟩ := List.mem_flatMap.1 hRecord
      obtain ⟨found, hFound, hPair⟩ := Store.exists_of_forall₂ hCompletes hCompleted
      have hOther := hLog.ne_of_listLogs hIntact hList found hFound
      exact hBuried.ne_of_completes hIntact hPair hOther record hWithin
  | @logUpdated id patch found result after hLoad hWrite hCompletes =>
      have hKept : RecordsBuried log rows after := by
        obtain ⟨-, rfl⟩ := (Database.updateLog_eq_ok hWrite).found
        exact ⟨hBuried.stored, hBuried.belongs⟩
      have hOther : found.id.text ≠ log.id := hLog.ne_of_loadLog hIntact hLoad
      cases result with
      | error error => exact recordsCovered_error hKept.stored
      | ok completed =>
          exact recordsCovered_ok hKept.stored
            (hKept.ne_of_completes (hIntact.updateLog hWrite) (hCompletes completed rfl) hOther)
  | logDeleted hWrite =>
      obtain ⟨-, rfl⟩ := (Database.deleteLog_eq_ok hWrite).found
      exact recordsCovered_ok hBuried.stored (List.forall_mem_nil _)
  | recordCreated hValid hFound hWrite =>
      obtain ⟨-, hFresh, -, rfl⟩ := Database.insertRecord_eq_ok hWrite
      refine recordsCovered_ok (fun row hRow => List.mem_append_left _ (hBuried.stored row hRow)) ?_
      refine List.forall_mem_singleton.2 fun row hRow hSame => ?_
      exact hFresh (hSame ▸ List.mem_map_of_mem (hBuried.stored row hRow))
  | recordsRead hList =>
      refine recordsCovered_ok hBuried.stored fun record hRecord => ?_
      obtain ⟨other, hOther, hRead, live, hLive, hChosen⟩ := Database.mem_listRecords hList hRecord
      obtain ⟨hId, hShown⟩ := Bool.and_eq_true_iff.1 hChosen
      refine hBuried.ne_of_other hIntact hOther (fun hSame => ?_) hRead
      exact hLog.ne_of_live hIntact hLive hShown ((beq_iff_eq.1 hId).trans hSame)
  | @recordUpdated id patch record after hLoad hValid hWrite =>
      have hUnaddressed : ¬ Addresses (.updateRecord id patch) rows := fun hAddresses => by
        obtain ⟨error, hError⟩ := hGuard hAddresses
        cases hError
      have hId : record.id = id := loadRecord_id hIntact hLoad
      have hOthers : ∀ row ∈ rows, row.id ≠ record.id.text :=
        hId ▸ ne_of_not_addresses hUnaddressed (.inr ⟨patch, rfl⟩)
      obtain ⟨-, -, rfl⟩ := (Database.updateRecord_eq_ok hWrite).found
      refine recordsCovered_ok (hBuried.changeRows hOthers) ?_
      exact List.forall_mem_singleton.2 fun row hRow hSame => hOthers row hRow hSame.symm
  | @recordDeleted id after hWrite =>
      have hUnaddressed : ¬ Addresses (.deleteRecord id) rows := fun hAddresses => by
        obtain ⟨error, hError⟩ := hGuard hAddresses
        cases hError
      have hOthers : ∀ row ∈ rows, row.id ≠ id.text := ne_of_not_addresses hUnaddressed (.inl rfl)
      obtain ⟨-, rfl⟩ := (Database.deleteRecord_eq_ok hWrite).found
      refine recordsCovered_ok (fun row hRow => ?_) (List.forall_mem_nil _)
      exact List.mem_filter.2 ⟨hBuried.stored row hRow, bne_iff_ne.2 (hOthers row hRow)⟩
  | _ => exact absurd trivial hCatalogue

/-- A call that succeeds in changing or deleting one of the records by its identifier hands it out
or removes its row. -/
theorem Step.not_recordsCovered {answer : Answer} (hStep : Step around db call (.ok answer) after)
    (hIntact : Intact db) (hAddresses : Addresses call rows) :
    ¬ RecordsCovered rows (.ok answer, after) := by
  rintro ⟨hStored, hHanded⟩
  obtain ⟨id, hCall, hId⟩ := hAddresses
  obtain ⟨row, hRow, hText⟩ := List.mem_map.1 hId
  rcases hCall with rfl | ⟨patch, rfl⟩
  · cases hStep with
    | recordDeleted hWrite =>
        obtain ⟨-, rfl⟩ := (Database.deleteRecord_eq_ok hWrite).found
        exact bne_iff_ne.1 (List.mem_filter.1 (hStored row hRow)).2 hText
  · cases hStep with
    | recordUpdated hLoad hValid hWrite =>
        have hSame := congrArg Identifier.text (loadRecord_id hIntact hLoad)
        exact hHanded _ rfl _ (List.mem_singleton_self _) row hRow (hSame.trans hText.symm)

end Records

/-! ### Runs after a deletion -/

section Runs

variable {db : Database} {log : LogRow} {rows : List RecordRow}

theorem logCovered_moments (hIntact : Intact db) (hLog : LogBuried log db) (later : List Occasion) :
    ∀ moment ∈ moments later db, LogCovered log (moment.1.perform moment.2) := by
  have hCovered : ∀ db, Intact db ∧ LogBuried log db → ∀ occasion : Occasion,
      LogCovered log (occasion.perform db) := fun db hBoth occasion =>
    (step_perform occasion.call occasion.budget occasion.around db).logCovered hBoth.1 hBoth.2
  have hKept := moments_keep (P := fun db => Intact db ∧ LogBuried log db) ⟨hIntact, hLog⟩
    (fun db hBoth occasion =>
      ⟨occasion.intact hBoth.1, (hCovered db hBoth occasion).1, hBoth.2.deleted⟩) later
  exact fun moment hMoment => hCovered moment.2 (hKept moment hMoment) moment.1

/-- By induction on the run: up to the first call that succeeds on one of the records by its
identifier, their rows are stored as they were. -/
theorem recordsCovered_moments_iff (hIntact : Intact db) (hLog : LogBuried log db)
    (hBuried : RecordsBuried log rows db) (later : List Occasion) :
    (∀ moment ∈ moments later db, RecordsCovered rows (moment.1.perform moment.2)) ↔
      ∀ moment ∈ moments later db, Addresses moment.1.call rows →
        ∃ error, (moment.1.perform moment.2).1 = .error error := by
  induction later generalizing db with
  | nil => simp [moments]
  | cons occasion later ih =>
      have hStep : Step occasion.around db occasion.call (occasion.perform db).1
          (occasion.perform db).2 := step_perform occasion.call occasion.budget occasion.around db
      have hAfter := occasion.intact hIntact
      simp only [moments, List.forall_mem_cons]
      generalize occasion.perform db = result at hStep hAfter ⊢
      obtain ⟨outcome, after⟩ := result
      have hLogAfter : LogBuried log after := ⟨(hStep.logCovered hIntact hLog).1, hLog.deleted⟩
      constructor
      · rintro ⟨hCovered, hLater⟩
        have hKept : RecordsBuried log rows after := ⟨hCovered.1, hBuried.belongs⟩
        refine ⟨fun hAddresses => ?_, (ih hAfter hLogAfter hKept).1 hLater⟩
        cases outcome with
        | error error => exact ⟨error, rfl⟩
        | ok answer => exact absurd hCovered (hStep.not_recordsCovered hIntact hAddresses)
      · rintro ⟨hGuard, hLater⟩
        have hCovered := hStep.recordsCovered hIntact hLog hBuried hGuard
        have hKept : RecordsBuried log rows after := ⟨hCovered.1, hBuried.belongs⟩
        exact ⟨hCovered, (ih hAfter hLogAfter hKept).2 hLater⟩

/-- What a successful deletion leaves: the row of the log, which is no longer live, and its
records. -/
theorem buried_of_deleteLog (hIntact : Intact db) {id : CalibrationLogId} {budget : Budget}
    {around : Circumstance} {after : Database}
    (hDeleted : (Call.deleteLog id).perform budget around db = (.ok .done, after)) :
    Intact after ∧ after.records = db.records ∧ ∃ row ∈ after.logs, row.id = id.text ∧
      LogBuried row after ∧ RecordsBuried row (recordsOf id db) after := by
  have hStep := step_perform (.deleteLog id) budget around db
  rw [hDeleted] at hStep
  refine ⟨hStep.intact hIntact, ?_⟩
  cases hStep with
  | logDeleted hWrite =>
      obtain ⟨⟨row, hRow, hLive⟩, rfl⟩ := (Database.deleteLog_eq_ok hWrite).found
      have hId : row.id = id.text := (Database.isLiveLog_iff.1 hLive).1
      have hStored := Store.mem_changeRows_of_chosen (fun row : LogRow => { row with
        updatedAt := Store.instantText around.now
        deletedAt := some (Store.instantText around.now) }) hRow hLive
      refine ⟨rfl, _, hStored, hId, ⟨hStored, rfl⟩, fun record hRecord => ?_, fun record hRecord => ?_⟩
      · exact List.mem_of_mem_filter hRecord
      · exact (beq_iff_eq.1 (List.mem_filter.1 hRecord).2).trans hId.symm

/-- Once a log has been deleted in any run, its row stays as it is and no later call hands it out.
Its records are covered likewise exactly as long as no later call succeeds in changing or deleting
one of them by its own identifier. -/
theorem deletion_covers_records_iff (run later : List Occasion) (id : CalibrationLogId)
    (budget : Budget) (around : Circumstance) (after : Database)
    (hDeleted : (Call.deleteLog id).perform budget around (performAll run Database.empty) =
      (.ok .done, after)) :
    after.records = (performAll run Database.empty).records ∧
      (∃ row ∈ after.logs, row.id = id.text ∧
        ∀ moment ∈ moments later after, LogCovered row (moment.1.perform moment.2)) ∧
      ((∀ moment ∈ moments later after,
          RecordsCovered (recordsOf id (performAll run Database.empty))
            (moment.1.perform moment.2)) ↔
        ∀ moment ∈ moments later after,
          Addresses moment.1.call (recordsOf id (performAll run Database.empty)) →
            ∃ error, (moment.1.perform moment.2).1 = .error error) := by
  obtain ⟨hIntact, hRecords, row, hRow, hId, hLog, hBuried⟩ :=
    buried_of_deleteLog (intact_performAll run) hDeleted
  exact ⟨hRecords, ⟨row, hRow, hId, logCovered_moments hIntact hLog later⟩,
    recordsCovered_moments_iff hIntact hLog hBuried later⟩

end Runs

def freshMorning : Calendar.Instant :=
  Calendar.Instant.startOfDay ⟨2025, 3, 1, by decide⟩

def freshLogRun : List Occasion :=
  [⟨.createFormulation ⟨"Granular"⟩, ⟨100⟩, ⟨freshMorning, 1⟩⟩,
    ⟨.createLawnService ⟨"FERT", "Fertilizer", ⟨1⟩, 3.5, "kg", "g", "amount", ""⟩, ⟨100⟩,
      ⟨freshMorning, 2⟩⟩,
    ⟨.createLog ⟨⟨2⟩⟩ ⟨9⟩, ⟨100⟩, ⟨freshMorning, 3⟩⟩,
    ⟨.createRecord ⟨3⟩ ⟨1.5, "g", 10⟩, ⟨100⟩, ⟨freshMorning, 4⟩⟩]

def freshLogDeleted : Database :=
  ((Call.deleteLog ⟨3⟩).perform ⟨100⟩ ⟨freshMorning, 5⟩ (performAll freshLogRun Database.empty)).2

private theorem deleteLog_freshLogRun :
    (Call.deleteLog ⟨3⟩).perform ⟨100⟩ ⟨freshMorning, 5⟩ (performAll freshLogRun Database.empty) =
      (.ok .done, freshLogDeleted) :=
  eq_of_outcome (by decide +kernel)

def freshRecordChange : Occasion :=
  ⟨.updateRecord ⟨4⟩ ⟨none, some 2.5, none, none⟩, ⟨100⟩, ⟨freshMorning, 6⟩⟩

private theorem freshRecordChange_addresses :
    Addresses freshRecordChange.call (recordsOf ⟨3⟩ (performAll freshLogRun Database.empty)) :=
  ⟨⟨4⟩, .inr ⟨_, rfl⟩, by decide +kernel⟩

private theorem freshRecordChange_succeeds :
    (freshRecordChange.perform freshLogDeleted).1.isOk = true := by
  decide +kernel

/-- The log is deleted, and then its record is asked for a change of its amount. -/
theorem deletion_covers_fresh_log :
    (Call.deleteLog ⟨3⟩).perform ⟨100⟩ ⟨freshMorning, 5⟩ (performAll freshLogRun Database.empty) =
        (.ok .done, freshLogDeleted) ∧
      ∃ row ∈ freshLogDeleted.logs, row.id = Identifier.text (⟨3⟩ : CalibrationLogId) ∧
        ∀ moment ∈ moments [freshRecordChange] freshLogDeleted,
          LogCovered row (moment.1.perform moment.2) :=
  ⟨deleteLog_freshLogRun, (deletion_covers_records_iff freshLogRun [freshRecordChange] ⟨3⟩ ⟨100⟩
    ⟨freshMorning, 5⟩ freshLogDeleted deleteLog_freshLogRun).2.1⟩

/-- A deletion does not cover the records of its log whatever comes later: the amount of one can
still be changed, and the change hands the record out. -/
theorem not_deletion_covers_records :
    ¬ ∀ (run later : List Occasion) (id : CalibrationLogId) (budget : Budget)
      (around : Circumstance) (after : Database),
      (Call.deleteLog id).perform budget around (performAll run Database.empty) =
        (.ok .done, after) →
      ∀ moment ∈ moments later after,
        RecordsCovered (recordsOf id (performAll run Database.empty))
          (moment.1.perform moment.2) := by
  intro hAll
  have hCovered := hAll freshLogRun [freshRecordChange] ⟨3⟩ ⟨100⟩ ⟨freshMorning, 5⟩ freshLogDeleted
    deleteLog_freshLogRun
  obtain ⟨hIntact, -⟩ := buried_of_deleteLog (intact_performAll freshLogRun) deleteLog_freshLogRun
  have hStep := step_perform freshRecordChange.call freshRecordChange.budget
    freshRecordChange.around freshLogDeleted
  have hOk := freshRecordChange_succeeds
  simp only [moments, List.forall_mem_cons, Occasion.perform] at hCovered hOk
  generalize freshRecordChange.call.perform freshRecordChange.budget freshRecordChange.around
    freshLogDeleted = result at hStep hOk hCovered
  obtain ⟨outcome, after⟩ := result
  cases outcome with
  | error error => cases hOk
  | ok answer =>
      exact hStep.not_recordsCovered hIntact freshRecordChange_addresses hCovered.1

end LawnCalibration.Service
