import LawnCalibration.Proofs.Store.LogBook
import LawnCalibration.Proofs.Store.Readback

/-
Where the times in a database come from.

Every row was written for an entity, and every time in it was given by a request
that succeeded.  A change of a row keeps the time of its creation.
-/

set_option autoImplicit false

namespace LawnCalibration.Store

open Calendar (Instant)

namespace Row.Written

variable {times : List Instant} {created updated : Instant}

private theorem mem_changed (hCreated : created ∈ times) :
    ∀ time ∈ [created, updated], time ∈ times ++ [updated] :=
  List.forall_mem_cons.2 ⟨List.mem_append_left _ hCreated,
    List.forall_mem_singleton.2 (List.mem_append_right _ (List.mem_singleton_self _))⟩

private theorem changeUnit {row : UnitRow} (hWritten : (Row.unit row).Written times)
    (new : MeasureUnit) :
    (Row.unit { UnitRow.ofUnit row.number new with createdAt := row.createdAt }).Written
      (times ++ [new.updatedAt]) := by
  cases hWritten with
  | unit number value hTimes =>
      exact .unit number { new with createdAt := value.createdAt }
        (mem_changed (hTimes _ List.mem_cons_self))

private theorem changeFormulation {row : FormulationRow}
    (hWritten : (Row.formulation row).Written times)
    (new : Formulation) :
    (Row.formulation { FormulationRow.ofFormulation row.number new with
      createdAt := row.createdAt }).Written (times ++ [new.updatedAt]) := by
  cases hWritten with
  | formulation number value hTimes =>
      exact .formulation number { new with createdAt := value.createdAt }
        (mem_changed (hTimes _ List.mem_cons_self))

private theorem changeLawnService {row : LawnServiceRow}
    (hWritten : (Row.lawnService row).Written times)
    {new : LawnService} (hNumber : new.targetCalibrationValue.isNaN = false) :
    (Row.lawnService { LawnServiceRow.ofLawnService row.number new with
      createdAt := row.createdAt }).Written (times ++ [new.updatedAt]) := by
  cases hWritten with
  | lawnService number value _ hTimes =>
      exact .lawnService number { new with createdAt := value.createdAt } hNumber
        (mem_changed (hTimes _ List.mem_cons_self))

private theorem changeRecord {row : RecordRow} (hWritten : (Row.record row).Written times)
    {new : CalibrationRecord} (hNumber : new.measurementValue.isNaN = false) :
    (Row.record { RecordRow.ofRecord row.number new with createdAt := row.createdAt }).Written
      (times ++ [new.updatedAt]) := by
  cases hWritten with
  | record number value _ hTimes =>
      exact .record number { new with createdAt := value.createdAt } hNumber
        (mem_changed (hTimes _ List.mem_cons_self))

theorem changeLog {row : LogRow} (hWritten : (Row.log row).Written times) (new : CalibrationLog) :
    (Row.log { row with
      userId := new.userId.text
      lawnServiceId := new.lawnServiceId.text
      updatedAt := instantText new.updatedAt }).Written (times ++ [new.updatedAt]) := by
  cases hWritten with
  | log number value hTimes =>
      refine .log number { value with
        userId := new.userId
        lawnServiceId := new.lawnServiceId
        updatedAt := new.updatedAt } ?_
      obtain ⟨hCreated, hOthers⟩ := List.forall_mem_cons.1 hTimes
      refine List.forall_mem_cons.2 ⟨List.mem_append_left _ hCreated, List.forall_mem_cons.2 ?_⟩
      refine ⟨List.mem_append_right _ (List.mem_singleton_self _), fun time hTime => ?_⟩
      exact List.mem_append_left _ (hOthers time (List.mem_cons_of_mem _ hTime))

theorem deleteLog {row : LogRow} (hWritten : (Row.log row).Written times) (moment : Instant) :
    (Row.log { row with
      updatedAt := instantText moment
      deletedAt := some (instantText moment) }).Written (times ++ [moment]) := by
  cases hWritten with
  | log number value hTimes =>
      refine .log number { value with updatedAt := moment, deletedAt := some moment } ?_
      have hMoment : moment ∈ times ++ [moment] :=
        List.mem_append_right _ (List.mem_singleton_self _)
      exact List.forall_mem_cons.2 ⟨List.mem_append_left _ (hTimes _ List.mem_cons_self),
        List.forall_mem_cons.2 ⟨hMoment, List.forall_mem_singleton.2 hMoment⟩⟩

end Row.Written

namespace Database

/-- Every row was written, all of its times among those given. -/
structure Written (times : List Instant) (db : Database) : Prop where
  units : ∀ row ∈ db.units, (Row.unit row).Written times
  formulations : ∀ row ∈ db.formulations, (Row.formulation row).Written times
  lawnServices : ∀ row ∈ db.lawnServices, (Row.lawnService row).Written times
  logs : ∀ row ∈ db.logs, (Row.log row).Written times
  records : ∀ row ∈ db.records, (Row.record row).Written times

variable {times : List Instant} {db : Database}

theorem written_empty : Written [] empty := by
  constructor <;> exact List.forall_mem_nil _

theorem Written.row (hWritten : Written times db) : ∀ row ∈ db.rows, row.Written times := by
  intro row hRow
  cases row with
  | unit row => exact hWritten.units row (mem_rows_unit.1 hRow)
  | formulation row => exact hWritten.formulations row (mem_rows_formulation.1 hRow)
  | lawnService row => exact hWritten.lawnServices row (mem_rows_lawnService.1 hRow)
  | log row => exact hWritten.logs row (mem_rows_log.1 hRow)
  | record row => exact hWritten.records row (mem_rows_record.1 hRow)

theorem Written.append (hWritten : Written times db) (others : List Instant) :
    Written (times ++ others) db := by
  have hSubset : ∀ time ∈ times, time ∈ times ++ others := fun time hTime =>
    List.mem_append_left _ hTime
  constructor
  · exact fun row hRow => (hWritten.units row hRow).mono hSubset
  · exact fun row hRow => (hWritten.formulations row hRow).mono hSubset
  · exact fun row hRow => (hWritten.lawnServices row hRow).mono hSubset
  · exact fun row hRow => (hWritten.logs row hRow).mono hSubset
  · exact fun row hRow => (hWritten.records row hRow).mono hSubset

end Database
end Store

namespace Storage

open Calendar (Instant)
open Store (Database forall_mem_concat forall_mem_changeRows storedReal_ne_null_iff)

/-- The times that a request has put into rows, by its answer. -/
def Request.stored (request : Request) (answer : Except StoreError Answer) : List Instant :=
  match request, answer with
  | .insertUnit unit, .ok _ => [unit.createdAt, unit.updatedAt]
  | .updateUnit unit, .ok (.changed true) => [unit.updatedAt]
  | .insertFormulation formulation, .ok _ => [formulation.createdAt, formulation.updatedAt]
  | .updateFormulation formulation, .ok (.changed true) => [formulation.updatedAt]
  | .insertLawnService service, .ok _ => [service.createdAt, service.updatedAt]
  | .updateLawnService service, .ok (.changed true) => [service.updatedAt]
  | .insertLog log, .ok _ => log.createdAt :: log.updatedAt :: log.deletedAt.toList
  | .updateLog log, .ok (.changed true) => [log.updatedAt]
  | .deleteLog _ moment, .ok (.changed true) => [moment]
  | .insertRecord record, .ok _ => [record.createdAt, record.updatedAt]
  | .updateRecord record, .ok (.changed true) => [record.updatedAt]
  | _, _ => []

def storedRun (requests : List Request) : List Instant :=
  Run.history Request.perform (fun request answer times => times ++ request.stored answer)
    requests Database.empty []

variable {times : List Instant} {db : Database}

private theorem mem_new {new : List Instant} : ∀ time ∈ new, time ∈ times ++ new :=
  fun _ hTime => List.mem_append_right _ hTime

section Steps

variable {request : Request}

private theorem written_insertion {outcome : Except StoreError Database}
    (hWritten : Database.Written times db) (hPerform : request.perform db = insertion db outcome)
    (hFailed : ∀ error, request.stored (.error error) = [])
    (hDone : ∀ after, outcome = .ok after →
      Database.Written (times ++ request.stored (.ok .done)) after) :
    Database.Written (times ++ request.stored (request.perform db).1) (request.perform db).2 := by
  rw [hPerform]
  exact insertion_follows (fun db stored => Database.Written (times ++ stored) db) request.stored
    (hWritten.append []) hFailed hDone

private theorem written_alteration {outcome : Except StoreError (Bool × Database)}
    {meaning : Database → Prop} (hWritten : Database.Written times db)
    (hPerform : request.perform db = alteration db outcome)
    (hAltered : ∀ found after, outcome = .ok (found, after) →
      Database.Altered db after found (meaning after))
    (hFailed : ∀ error, request.stored (.error error) = [])
    (hLost : request.stored (.ok (.changed false)) = [])
    (hFound : ∀ after, meaning after →
      Database.Written (times ++ request.stored (.ok (.changed true))) after) :
    Database.Written (times ++ request.stored (request.perform db).1) (request.perform db).2 := by
  rw [hPerform]
  exact alteration_follows (fun db stored => Database.Written (times ++ stored) db) request.stored
    (hWritten.append []) hAltered hFailed hLost hFound

end Steps

/-- A request that writes puts its own times into the rows and no others. -/
theorem Request.written_perform (hWritten : Database.Written times db) (request : Request) :
    Database.Written (times ++ request.stored (request.perform db).1) (request.perform db).2 := by
  -- The other tables keep their rows; only the set of times grows around them.
  have hKept := fun others => hWritten.append others
  cases request with
  | insertUnit unit =>
      refine written_insertion hWritten rfl (fun _ => rfl) fun after hWrite => ?_
      obtain ⟨-, rfl⟩ := Database.insertUnit_eq_ok hWrite
      exact { hKept _ with
        units := forall_mem_concat (hKept _).units (.unit _ unit mem_new) }
  | updateUnit unit =>
      refine written_alteration hWritten rfl (fun _ _ => Database.updateUnit_eq_ok) (fun _ => rfl)
        rfl ?_
      rintro after rfl
      exact { hKept _ with
        units := forall_mem_changeRows (hKept _).units fun row hRow _ =>
          (hWritten.units row hRow).changeUnit unit }
  | insertFormulation formulation =>
      refine written_insertion hWritten rfl (fun _ => rfl) fun after hWrite => ?_
      obtain ⟨-, -, rfl⟩ := Database.insertFormulation_eq_ok hWrite
      exact { hKept _ with
        formulations := forall_mem_concat (hKept _).formulations
          (.formulation _ formulation mem_new) }
  | updateFormulation formulation =>
      refine written_alteration hWritten rfl (fun _ _ => Database.updateFormulation_eq_ok)
        (fun _ => rfl) rfl ?_
      rintro after ⟨-, rfl⟩
      exact { hKept _ with
        formulations := forall_mem_changeRows (hKept _).formulations fun row hRow _ =>
          (hWritten.formulations row hRow).changeFormulation formulation }
  | insertLawnService service =>
      refine written_insertion hWritten rfl (fun _ => rfl) fun after hWrite => ?_
      obtain ⟨hTarget, -, -, -, rfl⟩ := Database.insertLawnService_eq_ok hWrite
      exact { hKept _ with
        lawnServices := forall_mem_concat (hKept _).lawnServices
          (.lawnService _ service (storedReal_ne_null_iff.1 hTarget) mem_new) }
  | updateLawnService service =>
      refine written_alteration hWritten rfl (fun _ _ => Database.updateLawnService_eq_ok)
        (fun _ => rfl) rfl ?_
      rintro after ⟨hTarget, -, -, rfl⟩
      exact { hKept _ with
        lawnServices := forall_mem_changeRows (hKept _).lawnServices fun row hRow _ =>
          (hWritten.lawnServices row hRow).changeLawnService (storedReal_ne_null_iff.1 hTarget) }
  | insertLog log =>
      refine written_insertion hWritten rfl (fun _ => rfl) fun after hWrite => ?_
      obtain ⟨-, -, rfl⟩ := Database.insertLog_eq_ok hWrite
      exact { hKept _ with
        logs := forall_mem_concat (hKept _).logs (.log _ log mem_new) }
  | updateLog log =>
      refine written_alteration hWritten rfl (fun _ _ => Database.updateLog_eq_ok) (fun _ => rfl)
        rfl ?_
      rintro after ⟨-, rfl⟩
      exact { hKept _ with
        logs := forall_mem_changeRows (hKept _).logs fun row hRow _ =>
          (hWritten.logs row hRow).changeLog log }
  | deleteLog id moment =>
      refine written_alteration hWritten rfl (fun _ _ => Database.deleteLog_eq_ok) (fun _ => rfl)
        rfl ?_
      rintro after ⟨-, rfl⟩
      exact { hKept _ with
        logs := forall_mem_changeRows (hKept _).logs fun row hRow _ =>
          (hWritten.logs row hRow).deleteLog moment }
  | insertRecord record =>
      refine written_insertion hWritten rfl (fun _ => rfl) fun after hWrite => ?_
      obtain ⟨hValue, -, -, rfl⟩ := Database.insertRecord_eq_ok hWrite
      exact { hKept _ with
        records := forall_mem_concat (hKept _).records
          (.record _ record (storedReal_ne_null_iff.1 hValue) mem_new) }
  | updateRecord record =>
      refine written_alteration hWritten rfl (fun _ _ => Database.updateRecord_eq_ok)
        (fun _ => rfl) rfl ?_
      rintro after ⟨hValue, -, rfl⟩
      exact { hKept _ with
        records := forall_mem_changeRows (hKept _).records fun row hRow _ =>
          (hWritten.records row hRow).changeRecord (storedReal_ne_null_iff.1 hValue) }
  | deleteRecord id =>
      exact { hKept _ with
        records := fun row hRow => (hKept _).records row (List.mem_of_mem_filter hRow) }
  | _ => exact hKept []

/-- The times in rows are those that the run has put there. -/
theorem written_run (requests : List Request) :
    Database.Written (storedRun requests) (performAll requests Database.empty) :=
  Run.history_follows (R := fun (db : Database) times => Database.Written times db) Database.written_empty
    (fun request _ _ hWritten => request.written_perform hWritten) requests

end Storage
end LawnCalibration
