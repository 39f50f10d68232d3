import LawnCalibration.Proofs.Store.Decoding
import LawnCalibration.Proofs.Store.Numbered
import LawnCalibration.Proofs.Store.Writes
import LawnCalibration.Storage.Request

/-
The logs on record, kept apart from the table that holds them.

The record is a list of logs in the order of their insertion.  It follows the
requests and their answers alone, and the table of logs holds its entries under
ascending numbers after every run of requests.
-/

set_option autoImplicit false

namespace LawnCalibration

open Store (Database LogRow)
open Store.Database (Altered isLiveLog)

/-- The logs with one live log among them changed. -/
def changeLog (id : CalibrationLogId) (change : CalibrationLog → CalibrationLog)
    (logs : List CalibrationLog) : List CalibrationLog :=
  logs.map fun log => if log.id = id ∧ log.deletedAt = none then change log else log

namespace Storage

def Request.recorded (request : Request) (answer : Except StoreError Answer)
    (logs : List CalibrationLog) : List CalibrationLog :=
  match request, answer with
  | .insertLog log, .ok _ => logs ++ [log.kept]
  | .updateLog new, .ok (.changed true) =>
      changeLog new.id (fun log => { log with
        userId := new.userId
        lawnServiceId := new.lawnServiceId
        updatedAt := new.updatedAt }) logs
  | .deleteLog id moment, .ok (.changed true) =>
      changeLog id (fun log => { log with
        updatedAt := moment
        deletedAt := some moment }) logs
  | _, _ => logs

def recordedRun (requests : List Request) : List CalibrationLog :=
  Run.history Request.perform Request.recorded requests Database.empty []

end Storage

namespace Store

def entryRow (entry : Int × CalibrationLog) : LogRow :=
  .ofLog entry.1 entry.2

/-- Rows hold logs as they are kept, in the order of their numbers. -/
def HoldsLogs (rows : List LogRow) (logs : List CalibrationLog) : Prop :=
  (∀ log ∈ logs, log.kept = log) ∧ ∃ entries : List (Int × CalibrationLog),
    entries.Pairwise (fun first second => first.1 < second.1) ∧
      rows = entries.map entryRow ∧ logs = entries.map Prod.snd

private theorem isLiveLog_ofLog (id : CalibrationLogId) (number : Int) (log : CalibrationLog) :
    isLiveLog id.text (LogRow.ofLog number log) = decide (log.id = id ∧ log.deletedAt = none) := by
  rw [Bool.eq_iff_iff, Database.isLiveLog_iff, decide_eq_true_iff]
  exact and_congr Identifier.text_inj Option.map_eq_none_iff

def logTable : Numbered LogRow CalibrationLog where
  toRow := LogRow.ofLog
  number := LogRow.number
  createdAt := LogRow.createdAt
  read := LogRow.toLog
  time := CalibrationLog.createdAt
  kept := CalibrationLog.kept
  number_toRow _ _ := rfl
  createdAt_toRow _ _ := rfl
  toRow_kept _ _ := rfl
  kept_kept _ := rfl
  read_toRow hRead :=
    let hLog := LogRow.toLog_ofLog_iff.1 hRead
    ⟨hLog.1, hLog.2.2.2⟩

theorem holdsLogs_iff {rows : List LogRow} {logs : List CalibrationLog} :
    HoldsLogs rows logs ↔ logTable.Holds rows logs :=
  Iff.rfl

theorem HoldsLogs.concat {rows : List LogRow} {logs : List CalibrationLog} (hHolds : HoldsLogs rows logs)
    (log : CalibrationLog) :
    HoldsLogs (rows ++ [.ofLog (nextNumber LogRow.number rows) log]) (logs ++ [log.kept]) :=
  holdsLogs_iff.2 ((holdsLogs_iff.1 hHolds).concat log)

/-- A change of the rows of live logs is the same change of the logs. -/
theorem HoldsLogs.change {rows : List LogRow} {logs : List CalibrationLog} (hHolds : HoldsLogs rows logs)
    (id : CalibrationLogId) {changeRow : LogRow → LogRow} {change : CalibrationLog → CalibrationLog}
    (hChange : ∀ number log, changeRow (.ofLog number log) = .ofLog number (change log))
    (hKeeps : ∀ log, (change log).kept = change log.kept) :
    HoldsLogs (changeRows (isLiveLog id.text) changeRow rows) (changeLog id change logs) := by
  have hTable := (holdsLogs_iff.1 hHolds).change (isLiveLog_ofLog id) hChange hKeeps
  simp only [decide_eq_true_eq] at hTable
  exact holdsLogs_iff.2 hTable

end Store

namespace Storage

open Store (HoldsLogs)

variable {db : Database}

-- What a request leaves alone, if it leaves it alone whenever it succeeds.

theorem insertion_keeps {β : Type} {part : Database → β} {outcome : Except StoreError Database}
    (hKept : ∀ after, outcome = .ok after → part after = part db) :
    part (insertion db outcome).2 = part db := by
  cases outcome with
  | error error => rfl
  | ok after => exact hKept after rfl

theorem alteration_keeps {β : Type} {part : Database → β}
    {outcome : Except StoreError (Bool × Database)} {meaning : Database → Prop}
    (hAltered : ∀ found after, outcome = .ok (found, after) → Altered db after found (meaning after))
    (hKept : ∀ after, meaning after → part after = part db) :
    part (alteration db outcome).2 = part db := by
  cases outcome with
  | error error => rfl
  | ok result =>
      rcases hAltered result.1 result.2 rfl with ⟨-, hSame⟩ | ⟨-, hMeaning⟩
      · exact congrArg part hSame
      · exact hKept result.2 hMeaning

/-- A table and what is recorded of it follow an insertion alike when they do so where it
succeeds. -/
theorem insertion_follows {β : Type} {state : β} {outcome : Except StoreError Database}
    (holds : Database → β → Prop) (recorded : Except StoreError Answer → β) (hHolds : holds db state)
    (hFailed : ∀ error, recorded (.error error) = state)
    (hDone : ∀ after, outcome = .ok after → holds after (recorded (.ok .done))) :
    holds (insertion db outcome).2 (recorded (insertion db outcome).1) := by
  cases outcome with
  | error error => exact hFailed error ▸ hHolds
  | ok after => exact hDone after rfl

/-- A table and what is recorded of it follow a change alike when they do so where it finds its
row. -/
theorem alteration_follows {β : Type} {state : β} {outcome : Except StoreError (Bool × Database)}
    {meaning : Database → Prop} (holds : Database → β → Prop)
    (recorded : Except StoreError Answer → β) (hHolds : holds db state)
    (hAltered : ∀ found after, outcome = .ok (found, after) → Altered db after found (meaning after))
    (hFailed : ∀ error, recorded (.error error) = state)
    (hLost : recorded (.ok (.changed false)) = state)
    (hFound : ∀ after, meaning after → holds after (recorded (.ok (.changed true)))) :
    holds (alteration db outcome).2 (recorded (alteration db outcome).1) := by
  cases outcome with
  | error error => exact hFailed error ▸ hHolds
  | ok result =>
      obtain ⟨found, after⟩ := result
      have hCases := hAltered found after rfl
      cases found with
      | false =>
          obtain rfl := hCases.lost
          exact hLost ▸ hHolds
      | true => exact hFound after hCases.found

def Request.WritesLogs : Request → Prop
  | .insertLog _ | .updateLog _ | .deleteLog _ _ => True
  | _ => False

/-- Any other request leaves the table of logs as it is. -/
theorem Request.logs_perform {request : Request} (hOther : ¬ request.WritesLogs) :
    (request.perform db).2.logs = db.logs := by
  cases request with
  | insertUnit unit =>
      exact insertion_keeps fun _ hWrite => (Database.insertUnit_eq_ok hWrite).2 ▸ rfl
  | insertFormulation formulation =>
      exact insertion_keeps fun _ hWrite => (Database.insertFormulation_eq_ok hWrite).2.2 ▸ rfl
  | insertLawnService service =>
      exact insertion_keeps fun _ hWrite => (Database.insertLawnService_eq_ok hWrite).2.2.2.2 ▸ rfl
  | insertRecord record =>
      exact insertion_keeps fun _ hWrite => (Database.insertRecord_eq_ok hWrite).2.2.2 ▸ rfl
  | updateUnit unit =>
      exact alteration_keeps (fun _ _ => Database.updateUnit_eq_ok) fun _ hAfter => hAfter ▸ rfl
  | updateFormulation formulation =>
      exact alteration_keeps (fun _ _ => Database.updateFormulation_eq_ok)
        fun _ hMeaning => hMeaning.2 ▸ rfl
  | updateLawnService service =>
      exact alteration_keeps (fun _ _ => Database.updateLawnService_eq_ok)
        fun _ hMeaning => hMeaning.2.2.2 ▸ rfl
  | updateRecord record =>
      exact alteration_keeps (fun _ _ => Database.updateRecord_eq_ok)
        fun _ hMeaning => hMeaning.2.2 ▸ rfl
  | deleteRecord id =>
      exact alteration_keeps (fun _ _ => Database.deleteRecord_eq_ok)
        fun _ hMeaning => hMeaning.2 ▸ rfl
  | insertLog log => exact absurd trivial hOther
  | updateLog log => exact absurd trivial hOther
  | deleteLog id moment => exact absurd trivial hOther
  | _ => rfl

/-- The table of logs and the record follow a request alike. -/
theorem Request.holdsLogs_perform {logs : List CalibrationLog} (hHolds : HoldsLogs db.logs logs)
    (request : Request) :
    HoldsLogs (request.perform db).2.logs (request.recorded (request.perform db).1 logs) := by
  cases request with
  | insertLog log =>
      refine insertion_follows (fun db => HoldsLogs db.logs)
        (fun answer => Request.recorded (.insertLog log) answer logs) hHolds (fun _ => rfl) ?_
      intro after hWrite
      obtain ⟨-, -, rfl⟩ := Database.insertLog_eq_ok hWrite
      exact hHolds.concat log
  | updateLog new =>
      refine alteration_follows (fun db => HoldsLogs db.logs)
        (fun answer => Request.recorded (.updateLog new) answer logs) hHolds
        (fun _ _ => Database.updateLog_eq_ok) (fun _ => rfl) rfl ?_
      rintro after ⟨-, rfl⟩
      exact hHolds.change new.id (fun _ _ => rfl) fun _ => rfl
  | deleteLog id moment =>
      refine alteration_follows (fun db => HoldsLogs db.logs)
        (fun answer => Request.recorded (.deleteLog id moment) answer logs) hHolds
        (fun _ _ => Database.deleteLog_eq_ok) (fun _ => rfl) rfl ?_
      rintro after ⟨-, rfl⟩
      exact hHolds.change id (fun _ _ => rfl) fun _ => rfl
  | _ =>
      rw [Request.logs_perform id]
      exact hHolds

/-- The table of logs holds the logs on record. -/
theorem holdsLogs_run (requests : List Request) :
    HoldsLogs (performAll requests Database.empty).logs (recordedRun requests) := by
  have hEmpty : HoldsLogs Database.empty.logs [] :=
    ⟨List.forall_mem_nil _, [], .nil, rfl, rfl⟩
  exact Run.history_follows (R := fun (db : Database) => HoldsLogs db.logs) hEmpty
    (fun request _ _ hHolds => request.holdsLogs_perform hHolds) requests

end Storage
end LawnCalibration
