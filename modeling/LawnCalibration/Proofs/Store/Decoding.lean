import LawnCalibration.Proofs.Store.Reals
import LawnCalibration.Proofs.Store.Rows

/-
Rows that are read back.

A row that was written says the entity it was written for, except for what is
never stored: calibrations, the records of a log and the sign of zero.  It is
read back just when all of its times have years of four digits.
-/

set_option autoImplicit false

namespace LawnCalibration

def LawnService.kept (service : LawnService) : LawnService :=
  { service with targetCalibrationValue := Store.settled service.targetCalibrationValue }

def CalibrationLog.kept (log : CalibrationLog) : CalibrationLog :=
  { log with currentCalibration := none, records := [] }

def CalibrationRecord.kept (record : CalibrationRecord) : CalibrationRecord :=
  { record with
    measurementValue := Store.settled record.measurementValue
    calibration := 0.0 }

namespace Store

open Calendar (Instant)

-- The time of creation is left open: a changed row has that of the row before.

theorem UnitRow.toUnit_ofUnit_iff {number : Int} {createdAt : String} {unit found : MeasureUnit} :
    UnitRow.toUnit { UnitRow.ofUnit number unit with createdAt } = .ok found ↔
      ∃ created, readInstant "units.created_at" createdAt = .ok created ∧
        unit.updatedAt.date.HasFourDigits ∧ { unit with createdAt := created } = found := by
  simp only [toUnit, ofUnit, bind_eq_ok_iff, readInstant_instantText_eq_ok_iff, pure, Except.pure,
    Except.ok.injEq, and_assoc, exists_eq_left', exists_and_left]

theorem FormulationRow.toFormulation_ofFormulation_iff {number : Int} {createdAt : String}
    {formulation found : Formulation} :
    FormulationRow.toFormulation { FormulationRow.ofFormulation number formulation with createdAt } =
        .ok found ↔
      ∃ created, readInstant "formulations.created_at" createdAt = .ok created ∧
        formulation.updatedAt.date.HasFourDigits ∧
        { formulation with createdAt := created } = found := by
  simp only [toFormulation, ofFormulation, bind_eq_ok_iff, readInstant_instantText_eq_ok_iff,
    readIdentifier_text, pure, Except.pure, Except.ok.injEq, and_assoc, exists_eq_left',
    exists_and_left]

theorem LawnServiceRow.toLawnService_ofLawnService_iff {number : Int} {createdAt : String}
    {service found : LawnService} :
    LawnServiceRow.toLawnService { LawnServiceRow.ofLawnService number service with createdAt } =
        .ok found ↔
      service.targetCalibrationValue.isNaN = false ∧
        ∃ created, readInstant "lawn_services.created_at" createdAt = .ok created ∧
          service.updatedAt.date.HasFourDigits ∧
          { service.kept with createdAt := created } = found := by
  simp only [toLawnService, ofLawnService, LawnService.kept, bind_eq_ok_iff,
    readInstant_instantText_eq_ok_iff, readIdentifier_text, readReal_storedReal_eq_ok_iff, pure,
    Except.pure, Except.ok.injEq, and_assoc, exists_eq_left', exists_and_left]

theorem RecordRow.toRecord_ofRecord_iff {number : Int} {createdAt : String}
    {record found : CalibrationRecord} :
    RecordRow.toRecord { RecordRow.ofRecord number record with createdAt } = .ok found ↔
      record.measurementValue.isNaN = false ∧
        ∃ created, readInstant "calibration_records.created_at" createdAt = .ok created ∧
          record.updatedAt.date.HasFourDigits ∧
          { record.kept with createdAt := created } = found := by
  simp only [toRecord, ofRecord, CalibrationRecord.kept, bind_eq_ok_iff,
    readInstant_instantText_eq_ok_iff, readIdentifier_text, readReal_storedReal_eq_ok_iff,
    readWord32_toNat, pure, Except.pure, Except.ok.injEq, and_assoc, exists_eq_left',
    exists_and_left]

-- A change of a log leaves its row in place and sets some of its columns.

private theorem readInstant?_map_eq_ok_iff {column : String} {moment found : Option Instant} :
    readInstant? column (moment.map instantText) = .ok found ↔
      (∀ instant ∈ moment, instant.date.HasFourDigits) ∧ moment = found := by
  cases moment with
  | none => simp [readInstant?]
  | some instant =>
      have hRead : readInstant? column (some (instantText instant)) =
          (readInstant column (instantText instant)).map some := rfl
      rw [Option.map_some, hRead]
      cases hOutcome : readInstant column (instantText instant) with
      | error error =>
          have hYear : ¬ instant.date.HasFourDigits := by
            intro hYear
            have hOk : readInstant column (instantText instant) = .ok instant :=
              readInstant_instantText hYear
            rw [hOutcome] at hOk
            cases hOk
          simp [Except.map, hYear]
      | ok value =>
          obtain ⟨hYear, rfl⟩ := readInstant_instantText_eq_ok_iff.1 hOutcome
          simp [Except.map, hYear]

theorem LogRow.toLog_ofLog_iff {number : Int} {log found : CalibrationLog} :
    (LogRow.ofLog number log).toLog = .ok found ↔
      log.createdAt.date.HasFourDigits ∧ log.updatedAt.date.HasFourDigits ∧
        (∀ instant ∈ log.deletedAt, instant.date.HasFourDigits) ∧ log.kept = found := by
  simp only [toLog, ofLog, CalibrationLog.kept, bind_eq_ok_iff, readInstant_instantText_eq_ok_iff,
    readInstant?_map_eq_ok_iff, readIdentifier_text, pure, Except.pure, Except.ok.injEq, and_assoc,
    exists_eq_left', exists_and_left]

theorem LogRow.toLog_change_iff {row : LogRow} {stored found : CalibrationLog} {userId : UserId}
    {lawnServiceId : LawnServiceId} {updatedAt : Instant} (hStored : row.toLog = .ok stored) :
    LogRow.toLog { row with
        userId := userId.text
        lawnServiceId := lawnServiceId.text
        updatedAt := instantText updatedAt } = .ok found ↔
      updatedAt.date.HasFourDigits ∧ { stored with userId, lawnServiceId, updatedAt } = found := by
  obtain ⟨hId, -, -, hCreated, -, hDeleted, hCalibration, hRecords⟩ := toLog_eq_ok hStored
  simp only [toLog, bind_eq_ok_iff, readInstant_instantText_eq_ok_iff, readIdentifier_text, hId,
    hCreated, hDeleted, hCalibration, hRecords, pure, Except.pure, Except.ok.injEq, and_assoc,
    exists_eq_left', exists_and_left]

theorem LogRow.toLog_deletion_iff {row : LogRow} {stored found : CalibrationLog} {moment : Instant}
    (hStored : row.toLog = .ok stored) :
    LogRow.toLog { row with
        updatedAt := instantText moment
        deletedAt := some (instantText moment) } = .ok found ↔
      moment.date.HasFourDigits ∧
        { stored with updatedAt := moment, deletedAt := some moment } = found := by
  obtain ⟨hId, hUser, hService, hCreated, -, -, hCalibration, hRecords⟩ := toLog_eq_ok hStored
  have hDeleted : ∀ value, readInstant? "calibration_logs.deleted_at" (some (instantText moment)) =
      .ok value ↔ moment.date.HasFourDigits ∧ some moment = value := by
    intro value
    have hMapped : readInstant? "calibration_logs.deleted_at" ((some moment).map instantText) =
        .ok value ↔ (∀ instant ∈ some moment, instant.date.HasFourDigits) ∧ some moment = value :=
      readInstant?_map_eq_ok_iff
    simpa using hMapped
  simp only [toLog, bind_eq_ok_iff, readInstant_instantText_eq_ok_iff, hDeleted, hId, hUser,
    hService, hCreated, hCalibration, hRecords, pure, Except.pure, Except.ok.injEq, and_assoc,
    exists_eq_left', exists_and_left, and_self_left]

end Store
end LawnCalibration
