import LawnCalibration.Proofs.Calendar.Order
import LawnCalibration.Proofs.Store.Writes

/-
The times in a database.

No row was changed before it was created or after the clock, and a log was
deleted when it was last changed.  A write at the time of the clock keeps this.
-/

set_option autoImplicit false

namespace LawnCalibration.Store

open Calendar (Instant)

/-- The times of creation and of the last change, in this order and not after the clock. -/
def Stamped (clock : Instant) (createdAt updatedAt : String) : Prop :=
  ∃ created updated : Instant, createdAt = instantText created ∧ updatedAt = instantText updated ∧
    created ≤ updated ∧ updated ≤ clock

variable {clock : Instant} {createdAt updatedAt : String}

private theorem stamped_now {created updated : Instant} (hCreated : created = clock)
    (hUpdated : updated = clock) :
    Stamped clock (instantText created) (instantText updated) := by
  subst hCreated hUpdated
  exact ⟨updated, updated, rfl, rfl, updated.le_refl, updated.le_refl⟩

theorem Stamped.changed {updated : Instant} (hStamped : Stamped clock createdAt updatedAt)
    (hUpdated : updated = clock) : Stamped clock createdAt (instantText updated) := by
  subst hUpdated
  obtain ⟨created, former, hCreated, -, hOrder, hClock⟩ := hStamped
  exact ⟨created, updated, hCreated, rfl, Instant.le_trans hOrder hClock, updated.le_refl⟩

theorem Stamped.mono {later : Instant} (hStamped : Stamped clock createdAt updatedAt)
    (hLater : clock ≤ later) : Stamped later createdAt updatedAt := by
  obtain ⟨created, updated, hCreated, hUpdated, hOrder, hClock⟩ := hStamped
  exact ⟨created, updated, hCreated, hUpdated, hOrder, Instant.le_trans hClock hLater⟩

namespace Database

structure Timed (clock : Instant) (db : Database) : Prop where
  units : ∀ row ∈ db.units, Stamped clock row.createdAt row.updatedAt
  formulations : ∀ row ∈ db.formulations, Stamped clock row.createdAt row.updatedAt
  lawnServices : ∀ row ∈ db.lawnServices, Stamped clock row.createdAt row.updatedAt
  logs : ∀ row ∈ db.logs, Stamped clock row.createdAt row.updatedAt
  records : ∀ row ∈ db.records, Stamped clock row.createdAt row.updatedAt
  deletions : ∀ row ∈ db.logs, ∀ moment, row.deletedAt = some moment → moment = row.updatedAt

theorem timed_empty (clock : Instant) : Timed clock empty := by
  constructor <;> simp [empty]

namespace Timed

variable {db after : Database} {clock : Instant}

theorem mono {later : Instant} (hTimed : Timed clock db) (hLater : clock ≤ later) :
    Timed later db where
  units row hRow := (hTimed.units row hRow).mono hLater
  formulations row hRow := (hTimed.formulations row hRow).mono hLater
  lawnServices row hRow := (hTimed.lawnServices row hRow).mono hLater
  logs row hRow := (hTimed.logs row hRow).mono hLater
  records row hRow := (hTimed.records row hRow).mono hLater
  deletions := hTimed.deletions

theorem insertUnit (hTimed : Timed clock db) {unit : MeasureUnit}
    (hCreated : unit.createdAt = clock) (hUpdated : unit.updatedAt = clock)
    (hWrite : db.insertUnit unit = .ok after) : Timed clock after := by
  obtain ⟨-, rfl⟩ := insertUnit_eq_ok hWrite
  exact { hTimed with
    units := forall_mem_concat hTimed.units (stamped_now hCreated hUpdated) }

theorem updateUnit (hTimed : Timed clock db) {unit : MeasureUnit} {found : Bool}
    (hUpdated : unit.updatedAt = clock) (hWrite : db.updateUnit unit = .ok (found, after)) :
    Timed clock after := by
  rcases updateUnit_eq_ok hWrite with ⟨-, rfl⟩ | ⟨-, rfl⟩
  · exact hTimed
  · exact { hTimed with
      units := forall_mem_changeRows hTimed.units fun row hRow _ =>
        (hTimed.units row hRow).changed hUpdated }

theorem insertFormulation (hTimed : Timed clock db) {formulation : Formulation}
    (hCreated : formulation.createdAt = clock) (hUpdated : formulation.updatedAt = clock)
    (hWrite : db.insertFormulation formulation = .ok after) : Timed clock after := by
  obtain ⟨-, -, rfl⟩ := insertFormulation_eq_ok hWrite
  exact { hTimed with
    formulations := forall_mem_concat hTimed.formulations (stamped_now hCreated hUpdated) }

theorem updateFormulation (hTimed : Timed clock db) {formulation : Formulation} {found : Bool}
    (hUpdated : formulation.updatedAt = clock) (hWrite : db.updateFormulation formulation = .ok (found, after)) :
    Timed clock after := by
  rcases updateFormulation_eq_ok hWrite with ⟨-, rfl⟩ | ⟨-, -, rfl⟩
  · exact hTimed
  · exact { hTimed with
      formulations := forall_mem_changeRows hTimed.formulations fun row hRow _ =>
        (hTimed.formulations row hRow).changed hUpdated }

theorem insertLawnService (hTimed : Timed clock db) {service : LawnService}
    (hCreated : service.createdAt = clock) (hUpdated : service.updatedAt = clock)
    (hWrite : db.insertLawnService service = .ok after) : Timed clock after := by
  obtain ⟨-, -, -, -, rfl⟩ := insertLawnService_eq_ok hWrite
  exact { hTimed with
    lawnServices := forall_mem_concat hTimed.lawnServices (stamped_now hCreated hUpdated) }

theorem updateLawnService (hTimed : Timed clock db) {service : LawnService} {found : Bool}
    (hUpdated : service.updatedAt = clock) (hWrite : db.updateLawnService service = .ok (found, after)) :
    Timed clock after := by
  rcases updateLawnService_eq_ok hWrite with ⟨-, rfl⟩ | ⟨-, -, -, -, rfl⟩
  · exact hTimed
  · exact { hTimed with
      lawnServices := forall_mem_changeRows hTimed.lawnServices fun row hRow _ =>
        (hTimed.lawnServices row hRow).changed hUpdated }

theorem insertLog (hTimed : Timed clock db) {log : CalibrationLog} (hCreated : log.createdAt = clock)
    (hUpdated : log.updatedAt = clock) (hLive : log.deletedAt = none)
    (hWrite : db.insertLog log = .ok after) : Timed clock after := by
  obtain ⟨-, -, rfl⟩ := insertLog_eq_ok hWrite
  have hNew : ∀ moment, (LogRow.ofLog (nextNumber LogRow.number db.logs) log).deletedAt =
      some moment → moment = (LogRow.ofLog (nextNumber LogRow.number db.logs) log).updatedAt := by
    intro moment hMoment
    rw [LogRow.ofLog, hLive] at hMoment
    cases hMoment
  exact { hTimed with
    logs := forall_mem_concat hTimed.logs (stamped_now hCreated hUpdated)
    deletions := forall_mem_concat hTimed.deletions hNew }

/-- A live log has no time of deletion that a change of it could leave behind. -/
theorem updateLog (hTimed : Timed clock db) {log : CalibrationLog} {found : Bool}
    (hUpdated : log.updatedAt = clock) (hWrite : db.updateLog log = .ok (found, after)) :
    Timed clock after := by
  rcases updateLog_eq_ok hWrite with ⟨-, rfl⟩ | ⟨-, -, rfl⟩
  · exact hTimed
  · exact { hTimed with
      logs := forall_mem_changeRows hTimed.logs fun row hRow _ =>
        (hTimed.logs row hRow).changed hUpdated
      deletions := forall_mem_changeRows hTimed.deletions fun row _ hChosen moment hMoment => by
        have hLive : row.deletedAt = none := (isLiveLog_iff.1 hChosen).2
        rw [hLive] at hMoment
        cases hMoment }

theorem deleteLog (hTimed : Timed clock db) {id : CalibrationLogId} {found : Bool}
    (hWrite : db.deleteLog id clock = .ok (found, after)) : Timed clock after := by
  rcases deleteLog_eq_ok hWrite with ⟨-, rfl⟩ | ⟨-, -, rfl⟩
  · exact hTimed
  · exact { hTimed with
      logs := forall_mem_changeRows hTimed.logs fun row hRow _ =>
        (hTimed.logs row hRow).changed rfl
      deletions := forall_mem_changeRows hTimed.deletions fun row _ _ moment hMoment =>
        (Option.some.inj hMoment).symm }

theorem insertRecord (hTimed : Timed clock db) {record : CalibrationRecord}
    (hCreated : record.createdAt = clock) (hUpdated : record.updatedAt = clock)
    (hWrite : db.insertRecord record = .ok after) : Timed clock after := by
  obtain ⟨-, -, -, rfl⟩ := insertRecord_eq_ok hWrite
  exact { hTimed with
    records := forall_mem_concat hTimed.records (stamped_now hCreated hUpdated) }

theorem updateRecord (hTimed : Timed clock db) {record : CalibrationRecord} {found : Bool}
    (hUpdated : record.updatedAt = clock) (hWrite : db.updateRecord record = .ok (found, after)) :
    Timed clock after := by
  rcases updateRecord_eq_ok hWrite with ⟨-, rfl⟩ | ⟨-, -, -, rfl⟩
  · exact hTimed
  · exact { hTimed with
      records := forall_mem_changeRows hTimed.records fun row hRow _ =>
        (hTimed.records row hRow).changed hUpdated }

theorem deleteRecord (hTimed : Timed clock db) {id : CalibrationRecordId} {found : Bool}
    (hWrite : db.deleteRecord id = .ok (found, after)) : Timed clock after := by
  rcases deleteRecord_eq_ok hWrite with ⟨-, rfl⟩ | ⟨-, -, rfl⟩
  · exact hTimed
  · exact { hTimed with
      records := fun row hRow => hTimed.records row (List.mem_of_mem_filter hRow) }

end Timed
end Database
end LawnCalibration.Store
