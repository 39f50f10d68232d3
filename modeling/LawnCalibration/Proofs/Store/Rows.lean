import LawnCalibration.Proofs.Calendar.Timestamp
import LawnCalibration.Proofs.Identifier
import LawnCalibration.Proofs.Store.Writes

/-
What a row that is read says.

Where a key stands in its written form, the entity that is read from the row
has just that key.
-/

set_option autoImplicit false

namespace LawnCalibration.Store

open Calendar (Instant)

theorem readIdentifier_text {kind : Kind} (column : String) (id : Identifier kind) :
    readIdentifier column id.text = .ok id := by
  rw [readIdentifier, Identifier.read_text]

theorem eq_text_of_readIdentifier {kind : Kind} {column value : String} {id : Identifier kind}
    (hRead : readIdentifier column value = .ok id) (hWritten : ∃ id : Identifier kind, value = id.text) :
    value = id.text := by
  obtain ⟨written, rfl⟩ := hWritten
  rw [readIdentifier_text] at hRead
  rw [Except.ok.inj hRead]

/-- An instant is read back from its column if its year has four digits, and else not at all. -/
theorem readInstant_instantText_eq_ok_iff {column : String} {instant found : Instant} :
    readInstant column (instantText instant) = .ok found ↔
      instant.date.HasFourDigits ∧ instant = found := by
  rw [eq_comm (a := instant), ← Calendar.Timestamp.read_text_eq_ok_iff]
  unfold readInstant instantText
  cases Calendar.Timestamp.read (Calendar.Timestamp.text instant) with
  | error error => simp
  | ok value => simp

theorem readInstant_instantText {column : String} {instant : Instant}
    (hYear : instant.date.HasFourDigits) : readInstant column (instantText instant) = .ok instant :=
  readInstant_instantText_eq_ok_iff.2 ⟨hYear, rfl⟩

theorem UnitRow.toUnit_eq_ok {row : UnitRow} {unit : MeasureUnit} (hRead : row.toUnit = .ok unit) :
    row.symbol = unit.symbol ∧ readInstant "units.created_at" row.createdAt = .ok unit.createdAt := by
  obtain ⟨createdAt, hCreated, hRead⟩ := bind_eq_ok_iff.1 hRead
  obtain ⟨updatedAt, hUpdated, hRead⟩ := bind_eq_ok_iff.1 hRead
  cases hRead
  exact ⟨rfl, hCreated⟩

theorem FormulationRow.toFormulation_eq_ok {row : FormulationRow} {formulation : Formulation}
    (hRead : row.toFormulation = .ok formulation) :
    readIdentifier "formulations.id" row.id = .ok formulation.id ∧
      readInstant "formulations.created_at" row.createdAt = .ok formulation.createdAt := by
  obtain ⟨id, hId, hRead⟩ := bind_eq_ok_iff.1 hRead
  obtain ⟨createdAt, hCreated, hRead⟩ := bind_eq_ok_iff.1 hRead
  obtain ⟨updatedAt, hUpdated, hRead⟩ := bind_eq_ok_iff.1 hRead
  cases hRead
  exact ⟨hId, hCreated⟩

theorem LawnServiceRow.toLawnService_eq_ok {row : LawnServiceRow} {service : LawnService}
    (hRead : row.toLawnService = .ok service) :
    readIdentifier "lawn_services.id" row.id = .ok service.id ∧
      readIdentifier "lawn_services.formulation_id" row.formulationId = .ok service.formulationId ∧
      readInstant "lawn_services.created_at" row.createdAt = .ok service.createdAt := by
  obtain ⟨target, hTarget, hRead⟩ := bind_eq_ok_iff.1 hRead
  obtain ⟨id, hId, hRead⟩ := bind_eq_ok_iff.1 hRead
  obtain ⟨formulationId, hFormulation, hRead⟩ := bind_eq_ok_iff.1 hRead
  obtain ⟨createdAt, hCreated, hRead⟩ := bind_eq_ok_iff.1 hRead
  obtain ⟨updatedAt, hUpdated, hRead⟩ := bind_eq_ok_iff.1 hRead
  cases hRead
  exact ⟨hId, hFormulation, hCreated⟩

theorem LogRow.toLog_eq_ok {row : LogRow} {log : CalibrationLog} (hRead : row.toLog = .ok log) :
    readIdentifier "calibration_logs.id" row.id = .ok log.id ∧
      readIdentifier "calibration_logs.user_id" row.userId = .ok log.userId ∧
      readIdentifier "calibration_logs.lawn_service_id" row.lawnServiceId = .ok log.lawnServiceId ∧
      readInstant "calibration_logs.created_at" row.createdAt = .ok log.createdAt ∧
      readInstant "calibration_logs.updated_at" row.updatedAt = .ok log.updatedAt ∧
      readInstant? "calibration_logs.deleted_at" row.deletedAt = .ok log.deletedAt ∧
      log.currentCalibration = none ∧ log.records = [] := by
  obtain ⟨id, hId, hRead⟩ := bind_eq_ok_iff.1 hRead
  obtain ⟨userId, hUser, hRead⟩ := bind_eq_ok_iff.1 hRead
  obtain ⟨lawnServiceId, hService, hRead⟩ := bind_eq_ok_iff.1 hRead
  obtain ⟨createdAt, hCreated, hRead⟩ := bind_eq_ok_iff.1 hRead
  obtain ⟨updatedAt, hUpdated, hRead⟩ := bind_eq_ok_iff.1 hRead
  obtain ⟨deletedAt, hDeleted, hRead⟩ := bind_eq_ok_iff.1 hRead
  cases hRead
  exact ⟨hId, hUser, hService, hCreated, hUpdated, hDeleted, rfl, rfl⟩

theorem RecordRow.toRecord_eq_ok {row : RecordRow} {record : CalibrationRecord}
    (hRead : row.toRecord = .ok record) :
    readIdentifier "calibration_records.id" row.id = .ok record.id ∧
      readIdentifier "calibration_records.calibration_log_id" row.calibrationLogId =
        .ok record.calibrationLogId ∧
      readInstant "calibration_records.created_at" row.createdAt = .ok record.createdAt ∧
      record.calibration = 0.0 := by
  obtain ⟨value, hValue, hRead⟩ := bind_eq_ok_iff.1 hRead
  obtain ⟨area, hArea, hRead⟩ := bind_eq_ok_iff.1 hRead
  obtain ⟨id, hId, hRead⟩ := bind_eq_ok_iff.1 hRead
  obtain ⟨logId, hLog, hRead⟩ := bind_eq_ok_iff.1 hRead
  obtain ⟨createdAt, hCreated, hRead⟩ := bind_eq_ok_iff.1 hRead
  obtain ⟨updatedAt, hUpdated, hRead⟩ := bind_eq_ok_iff.1 hRead
  cases hRead
  exact ⟨hId, hLog, hCreated, rfl⟩

namespace Database

variable {db : Database}

theorem loadUnit_eq_ok_some {symbol : String} {unit : MeasureUnit}
    (hLoad : db.loadUnit symbol = .ok (some unit)) :
    ∃ row ∈ db.units, row.symbol = symbol ∧ row.toUnit = .ok unit := by
  obtain ⟨row, hFound, hRow⟩ := decodeRow_eq_ok_some_iff.1 hLoad
  obtain ⟨hMember, hSymbol⟩ := mem_of_findRow hFound
  exact ⟨row, hMember, hSymbol, hRow⟩

theorem loadFormulation_eq_ok_some {id : FormulationId} {formulation : Formulation}
    (hLoad : db.loadFormulation id = .ok (some formulation)) :
    ∃ row ∈ db.formulations, row.id = id.text ∧ row.toFormulation = .ok formulation := by
  obtain ⟨row, hFound, hRow⟩ := decodeRow_eq_ok_some_iff.1 hLoad
  obtain ⟨hMember, hId⟩ := mem_of_findRow hFound
  exact ⟨row, hMember, hId, hRow⟩

theorem loadLawnService_eq_ok_some {id : LawnServiceId} {service : LawnService}
    (hLoad : db.loadLawnService id = .ok (some service)) :
    ∃ row ∈ db.lawnServices, row.id = id.text ∧ row.toLawnService = .ok service := by
  obtain ⟨row, hFound, hRow⟩ := decodeRow_eq_ok_some_iff.1 hLoad
  obtain ⟨hMember, hId⟩ := mem_of_findRow hFound
  exact ⟨row, hMember, hId, hRow⟩

theorem loadLog_eq_ok_some {id : CalibrationLogId} {log : CalibrationLog}
    (hLoad : db.loadLog id = .ok (some log)) :
    ∃ row ∈ db.logs, isLiveLog id.text row = true ∧ row.toLog = .ok log := by
  obtain ⟨row, hFound, hRow⟩ := decodeRow_eq_ok_some_iff.1 hLoad
  exact ⟨row, List.mem_of_find?_eq_some hFound, List.find?_some hFound, hRow⟩

theorem mem_listUnits {units : List MeasureUnit} (hList : db.listUnits = .ok units)
    {unit : MeasureUnit} (hUnit : unit ∈ units) : ∃ row ∈ db.units, row.toUnit = .ok unit := by
  obtain ⟨row, hRow, hRead⟩ := mem_of_mapM_eq_ok hList hUnit
  exact ⟨row, mem_sortedBy.1 hRow, hRead⟩

theorem mem_listFormulations {formulations : List Formulation}
    (hList : db.listFormulations = .ok formulations) {formulation : Formulation}
    (hFormulation : formulation ∈ formulations) :
    ∃ row ∈ db.formulations, row.toFormulation = .ok formulation := by
  obtain ⟨row, hRow, hRead⟩ := mem_of_mapM_eq_ok hList hFormulation
  exact ⟨row, mem_sortedBy.1 hRow, hRead⟩

theorem mem_listLawnServices {services : List LawnService}
    (hList : db.listLawnServices = .ok services) {service : LawnService}
    (hService : service ∈ services) : ∃ row ∈ db.lawnServices, row.toLawnService = .ok service := by
  obtain ⟨row, hRow, hRead⟩ := mem_of_mapM_eq_ok hList hService
  exact ⟨row, mem_sortedBy.1 hRow, hRead⟩

theorem mem_listLogs {filter : LogFilter} {logs : List CalibrationLog}
    (hList : db.listLogs filter = .ok logs) {log : CalibrationLog} (hLog : log ∈ logs) :
    ∃ row ∈ db.logs, row.isLive = true ∧ row.toLog = .ok log := by
  obtain ⟨row, hRow, hRead⟩ := mem_of_mapM_eq_ok hList hLog
  obtain ⟨hMember, hChosen⟩ := List.mem_filter.1 (mem_sortedNumbered.1 hRow)
  exact ⟨row, hMember, (Bool.and_eq_true_iff.1 hChosen).1, hRead⟩

theorem loadRecord_eq_ok_some {id : CalibrationRecordId} {record : CalibrationRecord}
    (hLoad : db.loadRecord id = .ok (some record)) :
    ∃ row ∈ db.records, row.id = id.text ∧ row.toRecord = .ok record := by
  obtain ⟨row, hFound, hRow⟩ := decodeRow_eq_ok_some_iff.1 hLoad
  obtain ⟨hMember, hId⟩ := mem_of_findRow hFound
  exact ⟨row, hMember, hId, hRow⟩

theorem mem_loadRecords {log : CalibrationLogId} {records : List CalibrationRecord}
    (hLoad : db.loadRecords log = .ok records) {record : CalibrationRecord}
    (hRecord : record ∈ records) :
    ∃ row ∈ db.records, row.calibrationLogId = log.text ∧ row.toRecord = .ok record := by
  obtain ⟨row, hRow, hRead⟩ := mem_of_mapM_eq_ok hLoad hRecord
  obtain ⟨hMember, hChosen⟩ := List.mem_filter.1 (mem_sortedNumbered.1 hRow)
  exact ⟨row, hMember, beq_iff_eq.1 hChosen, hRead⟩

theorem mem_listRecords {filter : RecordFilter} {records : List CalibrationRecord}
    (hList : db.listRecords filter = .ok records) {record : CalibrationRecord}
    (hRecord : record ∈ records) :
    ∃ row ∈ db.records, row.toRecord = .ok record ∧
      ∃ log ∈ db.logs, isLiveLog row.calibrationLogId log = true := by
  obtain ⟨row, hRow, hRead⟩ := mem_of_mapM_eq_ok hList hRecord
  obtain ⟨hMember, hChosen⟩ := List.mem_filter.1 (mem_sortedNumbered.1 hRow)
  exact ⟨row, hMember, hRead, List.any_eq_true.1 (Bool.and_eq_true_iff.1 hChosen).1⟩

theorem loadFormulation_id {id : FormulationId} {formulation : Formulation}
    (hLoad : db.loadFormulation id = .ok (some formulation)) : formulation.id = id := by
  obtain ⟨row, -, hId, hRead⟩ := loadFormulation_eq_ok_some hLoad
  have hColumn := (FormulationRow.toFormulation_eq_ok hRead).1
  rw [hId, readIdentifier_text] at hColumn
  exact (Except.ok.inj hColumn).symm

theorem loadUnit_symbol {symbol : String} {unit : MeasureUnit}
    (hLoad : db.loadUnit symbol = .ok (some unit)) : unit.symbol = symbol := by
  obtain ⟨row, -, hSymbol, hRead⟩ := loadUnit_eq_ok_some hLoad
  exact (UnitRow.toUnit_eq_ok hRead).1.symm.trans hSymbol

theorem loadLawnService_id {id : LawnServiceId} {service : LawnService}
    (hLoad : db.loadLawnService id = .ok (some service)) : service.id = id := by
  obtain ⟨row, -, hId, hRead⟩ := loadLawnService_eq_ok_some hLoad
  have hColumn := (LawnServiceRow.toLawnService_eq_ok hRead).1
  rw [hId, readIdentifier_text] at hColumn
  exact (Except.ok.inj hColumn).symm

theorem loadLog_id {id : CalibrationLogId} {log : CalibrationLog}
    (hLoad : db.loadLog id = .ok (some log)) : log.id = id := by
  obtain ⟨row, -, hLive, hRead⟩ := loadLog_eq_ok_some hLoad
  have hColumn := (LogRow.toLog_eq_ok hRead).1
  rw [(isLiveLog_iff.1 hLive).1, readIdentifier_text] at hColumn
  exact (Except.ok.inj hColumn).symm

theorem loadRecord_id {id : CalibrationRecordId} {record : CalibrationRecord}
    (hLoad : db.loadRecord id = .ok (some record)) : record.id = id := by
  obtain ⟨row, -, hId, hRead⟩ := loadRecord_eq_ok_some hLoad
  have hColumn := (RecordRow.toRecord_eq_ok hRead).1
  rw [hId, readIdentifier_text] at hColumn
  exact (Except.ok.inj hColumn).symm

theorem loadLawnService_isSome {id : LawnServiceId} {found : Option LawnService}
    (hStored : id.text ∈ db.lawnServices.map LawnServiceRow.id)
    (hLoad : db.loadLawnService id = .ok found) : found.isSome = true := by
  cases found with
  | some service => rfl
  | none =>
      have hNone := decodeRow_eq_ok_none_iff.1 hLoad
      rw [← findRow_isSome_iff, hNone] at hStored
      cases hStored

end Database
end LawnCalibration.Store
