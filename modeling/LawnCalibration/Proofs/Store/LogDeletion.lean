import LawnCalibration.Proofs.Store.RecordListing

/-
What is left of a log that was deleted.

Its row stays as the deletion left it.  No later request finds the log again,
changes its row or takes its identifier, and whoever loaded the log before and
writes it afterwards is told that there was nothing to change.
-/

set_option autoImplicit false

namespace LawnCalibration

open Calendar (Instant)
open Store (Database LogRow HoldsLogs HoldsRecords changeRows)
open Store.Database (isLiveLog)

namespace Storage

variable {db : Database}

/-- What a request does to the table of logs: nothing, one row more, or a change of a live log. -/
inductive LogStep (db after : Database) : Prop
  | kept (hLogs : after.logs = db.logs)
  | added (log : CalibrationLog) (hNew : log.id.text ∉ db.logs.map LogRow.id)
      (hLogs : after.logs = db.logs ++ [.ofLog (Store.nextNumber LogRow.number db.logs) log])
  | changed (id : String) (change : LogRow → LogRow)
      (hLogs : after.logs = changeRows (isLiveLog id) change db.logs)
      (hId : ∀ row, (change row).id = row.id)

theorem Request.logStep (request : Request) : LogStep db (request.perform db).2 := by
  cases request with
  | insertLog log =>
      refine insertion_follows (fun after (_ : Unit) => LogStep db after) (fun _ => ()) (.kept rfl)
        (fun _ => rfl) fun after hWrite => ?_
      obtain ⟨hNew, -, rfl⟩ := Database.insertLog_eq_ok hWrite
      exact .added log hNew rfl
  | updateLog log =>
      refine alteration_follows (fun after (_ : Unit) => LogStep db after) (fun _ => ()) (.kept rfl)
        (fun _ _ => Database.updateLog_eq_ok) (fun _ => rfl) rfl ?_
      rintro after ⟨-, rfl⟩
      exact .changed log.id.text _ rfl fun _ => rfl
  | deleteLog id moment => exact .changed id.text _ rfl fun _ => rfl
  | _ =>
      refine .kept ?_
      rw [Request.logs_perform id]

/-- No two logs have one identifier, deleted or not. -/
theorem LogStep.logIds {after : Database} (hStep : LogStep db after)
    (hIds : (db.logs.map LogRow.id).Nodup) : (after.logs.map LogRow.id).Nodup := by
  cases hStep with
  | kept hLogs => exact hLogs ▸ hIds
  | added log hNew hLogs => exact hLogs ▸ Store.nodup_map_concat hIds hNew
  | changed id change hLogs hId =>
      rw [hLogs, Store.map_changeRows fun row _ => hId row]
      exact hIds

/-- No step changes or removes the row of a deleted log. -/
theorem LogStep.mem_of_deleted {after : Database} (hStep : LogStep db after) {row : LogRow}
    (hRow : row ∈ db.logs) (hDeleted : row.isLive = false) : row ∈ after.logs := by
  cases hStep with
  | kept hLogs => exact hLogs ▸ hRow
  | added log hNew hLogs => exact hLogs ▸ List.mem_append_left _ hRow
  | changed id change hLogs hId =>
      have hOther : isLiveLog id row = false := by rw [isLiveLog, hDeleted, Bool.and_false]
      rw [hLogs]
      exact Store.mem_changeRows_iff.2 ⟨row, hRow, .inr ⟨hOther, rfl⟩⟩

private theorem nodup_logIds_run (requests : List Request) :
    ((performAll requests Database.empty).logs.map LogRow.id).Nodup := by
  have hEmpty : (Database.empty.logs.map LogRow.id).Nodup := List.nodup_nil
  exact Run.final_keeps (P := fun (db : Database) => (db.logs.map LogRow.id).Nodup) hEmpty
    fun request _ _ => request.logStep.logIds

end Storage

namespace Store

theorem HoldsLogs.idTexts {rows : List LogRow} {logs : List CalibrationLog}
    (hHolds : HoldsLogs rows logs) : ∀ row ∈ rows, ∃ id : CalibrationLogId, row.id = id.text := by
  obtain ⟨-, entries, -, rfl, -⟩ := hHolds
  intro row hRow
  obtain ⟨entry, -, rfl⟩ := List.mem_map.1 hRow
  exact ⟨entry.2.id, rfl⟩

namespace Database

/-- A log is final in its deleted row: no question finds it and no write reaches it. -/
structure Final (id : CalibrationLogId) (row : LogRow) (db : Database) : Prop where
  row_iff : ∀ other, other ∈ db.logs ∧ other.id = id.text ↔ other = row
  notLoaded : db.loadLog id = .ok none
  notListed : ∀ filter logs, db.listLogs filter = .ok logs → ∀ log ∈ logs, log.id ≠ id
  /-- no record that is assigned to it now is listed -/
  noRecords : ∀ filter records, db.listRecords filter = .ok records →
    ∀ record ∈ records, record.calibrationLogId ≠ id
  notUpdated : ∀ log : CalibrationLog, log.id = id → db.updateLog log = .ok (false, db)
  notDeleted : ∀ moment, db.deleteLog id moment = .ok (false, db)
  notInserted : ∀ log : CalibrationLog, log.id = id →
    db.insertLog log = .error (.conflict .calibrationLog (.unique "calibration_logs.id"))

variable {db : Database} {id : CalibrationLogId} {row : LogRow} {logs : List CalibrationLog}
  {records : List CalibrationRecord}

theorem final_of_deleted (hLogs : HoldsLogs db.logs logs) (hRecords : HoldsRecords db.records records)
    (hIds : (db.logs.map LogRow.id).Nodup) (hRow : row ∈ db.logs) (hId : row.id = id.text)
    (hDeleted : row.isLive = false) : Final id row db := by
  have hOnly : ∀ other ∈ db.logs, other.id = id.text → other = row := fun other hOther hSame =>
    List.inj_on_of_nodup_map hIds hOther hRow (hSame.trans hId.symm)
  have hLost : ∀ other ∈ db.logs, isLiveLog id.text other = false := by
    intro other hOther
    rw [Bool.eq_false_iff]
    intro hLive
    obtain rfl := hOnly other hOther (isLiveLog_iff.1 hLive).1
    rw [isLiveLog, hDeleted, Bool.and_false] at hLive
    cases hLive
  have hNone : db.logs.any (isLiveLog id.text) = false := List.any_eq_false.2 fun other hOther =>
    Bool.not_eq_true _ ▸ hLost other hOther
  constructor
  case row_iff =>
    intro other
    constructor
    · exact fun hOther => hOnly other hOther.1 hOther.2
    · rintro rfl
      exact ⟨hRow, hId⟩
  case notLoaded =>
    have hFound : db.logs.find? (isLiveLog id.text) = none :=
      List.find?_eq_none.2 fun other hOther => Bool.not_eq_true _ ▸ hLost other hOther
    rw [loadLog, hFound]
    rfl
  case notListed =>
    rintro filter found hList log hLog rfl
    obtain ⟨other, hOther, hLive, hRead⟩ := mem_listLogs hList hLog
    have hText := eq_text_of_readIdentifier (LogRow.toLog_eq_ok hRead).1 (hLogs.idTexts other hOther)
    obtain rfl := hOnly other hOther hText
    rw [hDeleted] at hLive
    cases hLive
  case noRecords =>
    rintro filter found hList record hRecord rfl
    obtain ⟨other, hOther, hRead, log, hLog, hLive⟩ := mem_listRecords hList hRecord
    have hText := eq_text_of_readIdentifier (RecordRow.toRecord_eq_ok hRead).2.1
      (hRecords.logTexts other hOther)
    rw [hText, hLost log hLog] at hLive
    cases hLive
  case notUpdated =>
    rintro log rfl
    rw [updateLog, if_neg (Bool.not_eq_true _ ▸ hNone)]
  case notDeleted =>
    intro moment
    rw [deleteLog, hNone, changeRows_eq_self hLost]
  case notInserted =>
    rintro log rfl
    have hHeld : holds LogRow.id log.id.text db.logs = true :=
      holds_eq_true_iff.2 (hId ▸ List.mem_map_of_mem hRow)
    rw [insertLog, hHeld]
    rfl

end Database
end Store

open Storage (Request performAll)

/-- Once the deletion of a log has been answered with yes, the log is final, whatever requests come
before and after: its row has the time of deletion and all else that stood in it. -/
theorem deleted_log_is_final (requests later : List Request) (id : CalibrationLogId)
    (moment : Instant)
    (hDeleted : ((Request.deleteLog id moment).perform (performAll requests Database.empty)).1 =
      .ok (.changed true)) :
    ∃ row ∈ (performAll requests Database.empty).logs, row.id = id.text ∧ row.deletedAt = none ∧
      Database.Final id
        { row with
          updatedAt := Store.instantText moment
          deletedAt := some (Store.instantText moment) }
        (performAll (requests ++ .deleteLog id moment :: later) Database.empty) := by
  have hFound : (performAll requests Database.empty).logs.any (isLiveLog id.text) = true :=
    Storage.Answer.changed.inj (Except.ok.inj hDeleted)
  obtain ⟨row, hRow, hLive⟩ := List.any_eq_true.1 hFound
  obtain ⟨hId, hNone⟩ := Database.isLiveLog_iff.1 hLive
  refine ⟨row, hRow, hId, hNone, ?_⟩
  have hRun : performAll (requests ++ .deleteLog id moment :: later) Database.empty =
      performAll later
        ((Request.deleteLog id moment).perform (performAll requests Database.empty)).2 :=
    Run.final_append requests (.deleteLog id moment :: later) Database.empty
  refine Database.final_of_deleted (Storage.holdsLogs_run _) (Storage.holdsRecords_run _)
    (Storage.nodup_logIds_run _) ?_ hId rfl
  rw [hRun]
  refine Run.final_keeps (P := (_ ∈ Database.logs ·)) ?_
    fun request _ _ hStored => request.logStep.mem_of_deleted hStored rfl
  exact Store.mem_changeRows_of_chosen _ hRow hLive

def staleLog : CalibrationLog :=
  ⟨⟨3⟩, ⟨9⟩, ⟨2⟩, autumnMorning, autumnMorning, none, none, []⟩

def staleRun : List Request :=
  [.insertFormulation ⟨⟨1⟩, "Granular", autumnMorning, autumnMorning⟩,
    .insertLawnService ⟨⟨"FERT", "Fertilizer", ⟨1⟩, 3.5, "kg", "g", "amount", ""⟩, ⟨2⟩,
      autumnMorning, autumnMorning⟩,
    .insertLog staleLog,
    .insertRecord (autumnRecord ⟨5⟩ ⟨3⟩ autumnMorning),
    .loadLog ⟨3⟩]

def staleWrites : List Request :=
  [.updateLog { staleLog with userId := ⟨8⟩, updatedAt := autumnEvening },
    .insertLog staleLog, .deleteLog ⟨3⟩ autumnMorning,
    .updateRecord (autumnRecord ⟨5⟩ ⟨3⟩ autumnEvening)]

private theorem staleRun_deletes :
    ((Request.deleteLog ⟨3⟩ autumnEvening).perform (performAll staleRun Database.empty)).1 =
      .ok (.changed true) := by
  decide +kernel

/-- The writes of the client that comes too late do not change the row of the log. -/
theorem deleted_log_is_final_staleWrites :
    ∃ row ∈ (performAll staleRun Database.empty).logs, row.id = Identifier.text staleLog.id ∧
      row.deletedAt = none ∧ Database.Final ⟨3⟩
        { row with
          updatedAt := Store.instantText autumnEvening
          deletedAt := some (Store.instantText autumnEvening) }
        (performAll (staleRun ++ .deleteLog ⟨3⟩ autumnEvening :: staleWrites) Database.empty) :=
  deleted_log_is_final staleRun staleWrites ⟨3⟩ autumnEvening staleRun_deletes

end LawnCalibration
