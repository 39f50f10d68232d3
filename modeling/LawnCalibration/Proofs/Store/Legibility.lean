import LawnCalibration.Proofs.Store.Decoding

/-
Databases that can be read.

A question is only answered if every row that it takes in can be read.  A write
whose own times have years of four digits leaves a database that can be read
when it was one before.
-/

set_option autoImplicit false

namespace LawnCalibration.Store

open Calendar (Instant)

variable {ρ α : Type}

theorem exists_mapM_eq_ok {decode : ρ → Except StoreError α} {rows : List ρ}
    (hRows : ∀ row ∈ rows, ∃ value, decode row = .ok value) :
    ∃ values, rows.mapM decode = .ok values := by
  induction rows with
  | nil => exact ⟨[], rfl⟩
  | cons row rows ih =>
      obtain ⟨value, hValue⟩ := hRows row List.mem_cons_self
      obtain ⟨values, hValues⟩ := ih fun other hOther => hRows other (List.mem_cons_of_mem row hOther)
      refine ⟨value :: values, ?_⟩
      rw [List.mapM_cons, hValue, hValues]
      rfl

private theorem exists_decodeRow_eq_ok {decode : ρ → Except StoreError α} {found : Option ρ}
    (hFound : ∀ row, found = some row → ∃ value, decode row = .ok value) :
    ∃ answer, decodeRow decode found = .ok answer := by
  cases found with
  | none => exact ⟨none, rfl⟩
  | some row =>
      obtain ⟨value, hValue⟩ := hFound row rfl
      exact ⟨some value, decodeRow_eq_ok_some_iff.2 ⟨row, rfl, hValue⟩⟩

namespace Database

structure Legible (db : Database) : Prop where
  units : ∀ row ∈ db.units, ∃ unit, row.toUnit = .ok unit
  formulations : ∀ row ∈ db.formulations, ∃ formulation, row.toFormulation = .ok formulation
  lawnServices : ∀ row ∈ db.lawnServices, ∃ service, row.toLawnService = .ok service
  logs : ∀ row ∈ db.logs, ∃ log, row.toLog = .ok log
  records : ∀ row ∈ db.records, ∃ record, row.toRecord = .ok record

variable {db after : Database}

section Questions

private theorem exists_findRow {column : ρ → String} {key : String} {rows : List ρ}
    {decode : ρ → Except StoreError α} (hRows : ∀ row ∈ rows, ∃ value, decode row = .ok value) :
    ∃ answer, decodeRow decode (findRow column key rows) = .ok answer :=
  exists_decodeRow_eq_ok fun row hRow => hRows row (mem_of_findRow hRow).1

private theorem exists_sortedNumbered {column : ρ → String} {number : ρ → Int} {chosen : ρ → Bool}
    {rows : List ρ} {decode : ρ → Except StoreError α}
    (hRows : ∀ row ∈ rows, ∃ value, decode row = .ok value) :
    ∃ values, (sortedNumbered column number (rows.filter chosen)).mapM decode = .ok values := by
  apply exists_mapM_eq_ok
  intro row hRow
  exact hRows row (List.mem_of_mem_filter (mem_sortedNumbered.1 hRow))

private theorem exists_sortedBy {column : ρ → String} {rows : List ρ}
    {decode : ρ → Except StoreError α}
    (hRows : ∀ row ∈ rows, ∃ value, decode row = .ok value) :
    ∃ values, (sortedBy column rows).mapM decode = .ok values := by
  apply exists_mapM_eq_ok
  intro row hRow
  exact hRows row (mem_sortedBy.1 hRow)

theorem exists_loadRecords (hRecords : ∀ row ∈ db.records, ∃ record, row.toRecord = .ok record)
    (log : CalibrationLogId) : ∃ records, db.loadRecords log = .ok records :=
  exists_sortedNumbered hRecords

theorem exists_loadLawnService
    (hServices : ∀ row ∈ db.lawnServices, ∃ service, row.toLawnService = .ok service)
    (id : LawnServiceId) : ∃ found, db.loadLawnService id = .ok found :=
  exists_findRow hServices

theorem Legible.loadUnit (hLegible : Legible db) (symbol : String) :
    ∃ found, db.loadUnit symbol = .ok found :=
  exists_findRow hLegible.units

theorem Legible.listUnits (hLegible : Legible db) : ∃ units, db.listUnits = .ok units :=
  exists_sortedBy hLegible.units

theorem Legible.loadFormulation (hLegible : Legible db) (id : FormulationId) :
    ∃ found, db.loadFormulation id = .ok found :=
  exists_findRow hLegible.formulations

theorem Legible.listFormulations (hLegible : Legible db) :
    ∃ formulations, db.listFormulations = .ok formulations :=
  exists_sortedBy hLegible.formulations

theorem Legible.listLawnServices (hLegible : Legible db) :
    ∃ services, db.listLawnServices = .ok services :=
  exists_sortedBy hLegible.lawnServices

theorem Legible.loadLog (hLegible : Legible db) (id : CalibrationLogId) :
    ∃ found, db.loadLog id = .ok found :=
  exists_decodeRow_eq_ok fun row hRow => hLegible.logs row (List.mem_of_find?_eq_some hRow)

theorem Legible.listLogs (hLegible : Legible db) (filter : LogFilter) :
    ∃ logs, db.listLogs filter = .ok logs :=
  exists_sortedNumbered hLegible.logs

theorem Legible.loadRecord (hLegible : Legible db) (id : CalibrationRecordId) :
    ∃ found, db.loadRecord id = .ok found :=
  exists_findRow hLegible.records

theorem Legible.listRecords (hLegible : Legible db) (filter : RecordFilter) :
    ∃ records, db.listRecords filter = .ok records :=
  exists_sortedNumbered hLegible.records

end Questions

theorem legible_empty : Legible empty := by
  constructor <;> simp [empty]

namespace Legible

theorem insertUnit (hLegible : Legible db) {unit : MeasureUnit}
    (hCreated : unit.createdAt.date.HasFourDigits) (hUpdated : unit.updatedAt.date.HasFourDigits)
    (hWrite : db.insertUnit unit = .ok after) : Legible after := by
  obtain ⟨-, rfl⟩ := insertUnit_eq_ok hWrite
  exact { hLegible with
    units := forall_mem_concat hLegible.units
      ⟨_, UnitRow.toUnit_ofUnit_iff.2 ⟨_, readInstant_instantText hCreated, hUpdated, rfl⟩⟩ }

theorem updateUnit (hLegible : Legible db) {unit : MeasureUnit} {found : Bool}
    (hUpdated : unit.updatedAt.date.HasFourDigits)
    (hWrite : db.updateUnit unit = .ok (found, after)) : Legible after := by
  rcases updateUnit_eq_ok hWrite with ⟨-, rfl⟩ | ⟨-, rfl⟩
  · exact hLegible
  · refine { hLegible with units := forall_mem_changeRows hLegible.units fun row hRow _ => ?_ }
    obtain ⟨stored, hStored⟩ := hLegible.units row hRow
    have hCreated := (UnitRow.toUnit_eq_ok hStored).2
    exact ⟨_, UnitRow.toUnit_ofUnit_iff.2 ⟨_, hCreated, hUpdated, rfl⟩⟩

theorem insertFormulation (hLegible : Legible db) {formulation : Formulation}
    (hCreated : formulation.createdAt.date.HasFourDigits)
    (hUpdated : formulation.updatedAt.date.HasFourDigits)
    (hWrite : db.insertFormulation formulation = .ok after) : Legible after := by
  obtain ⟨-, -, rfl⟩ := insertFormulation_eq_ok hWrite
  exact { hLegible with
    formulations := forall_mem_concat hLegible.formulations
      ⟨_, FormulationRow.toFormulation_ofFormulation_iff.2
        ⟨_, readInstant_instantText hCreated, hUpdated, rfl⟩⟩ }

theorem updateFormulation (hLegible : Legible db) {formulation : Formulation} {found : Bool}
    (hUpdated : formulation.updatedAt.date.HasFourDigits)
    (hWrite : db.updateFormulation formulation = .ok (found, after)) : Legible after := by
  rcases updateFormulation_eq_ok hWrite with ⟨-, rfl⟩ | ⟨-, -, rfl⟩
  · exact hLegible
  · refine { hLegible with
      formulations := forall_mem_changeRows hLegible.formulations fun row hRow _ => ?_ }
    obtain ⟨stored, hStored⟩ := hLegible.formulations row hRow
    have hCreated := (FormulationRow.toFormulation_eq_ok hStored).2
    exact ⟨_, FormulationRow.toFormulation_ofFormulation_iff.2 ⟨_, hCreated, hUpdated, rfl⟩⟩

theorem insertLawnService (hLegible : Legible db) {service : LawnService}
    (hCreated : service.createdAt.date.HasFourDigits)
    (hUpdated : service.updatedAt.date.HasFourDigits)
    (hWrite : db.insertLawnService service = .ok after) : Legible after := by
  obtain ⟨hTarget, -, -, -, rfl⟩ := insertLawnService_eq_ok hWrite
  exact { hLegible with
    lawnServices := forall_mem_concat hLegible.lawnServices
      ⟨_, LawnServiceRow.toLawnService_ofLawnService_iff.2
        ⟨storedReal_ne_null_iff.1 hTarget, _, readInstant_instantText hCreated, hUpdated, rfl⟩⟩ }

theorem updateLawnService (hLegible : Legible db) {service : LawnService} {found : Bool}
    (hUpdated : service.updatedAt.date.HasFourDigits)
    (hWrite : db.updateLawnService service = .ok (found, after)) : Legible after := by
  rcases updateLawnService_eq_ok hWrite with ⟨-, rfl⟩ | ⟨-, hTarget, -, -, rfl⟩
  · exact hLegible
  · refine { hLegible with
      lawnServices := forall_mem_changeRows hLegible.lawnServices fun row hRow _ => ?_ }
    obtain ⟨stored, hStored⟩ := hLegible.lawnServices row hRow
    have hCreated := (LawnServiceRow.toLawnService_eq_ok hStored).2.2
    exact ⟨_, LawnServiceRow.toLawnService_ofLawnService_iff.2
      ⟨storedReal_ne_null_iff.1 hTarget, _, hCreated, hUpdated, rfl⟩⟩

theorem insertLog (hLegible : Legible db) {log : CalibrationLog}
    (hCreated : log.createdAt.date.HasFourDigits) (hUpdated : log.updatedAt.date.HasFourDigits)
    (hLive : log.deletedAt = none) (hWrite : db.insertLog log = .ok after) : Legible after := by
  obtain ⟨-, -, rfl⟩ := insertLog_eq_ok hWrite
  have hDeleted : ∀ moment ∈ log.deletedAt, moment.date.HasFourDigits := by simp [hLive]
  exact { hLegible with
    logs := forall_mem_concat hLegible.logs
      ⟨_, LogRow.toLog_ofLog_iff.2 ⟨hCreated, hUpdated, hDeleted, rfl⟩⟩ }

theorem updateLog (hLegible : Legible db) {log : CalibrationLog} {found : Bool}
    (hUpdated : log.updatedAt.date.HasFourDigits)
    (hWrite : db.updateLog log = .ok (found, after)) : Legible after := by
  rcases updateLog_eq_ok hWrite with ⟨-, rfl⟩ | ⟨-, -, rfl⟩
  · exact hLegible
  · refine { hLegible with logs := forall_mem_changeRows hLegible.logs fun row hRow _ => ?_ }
    obtain ⟨stored, hStored⟩ := hLegible.logs row hRow
    exact ⟨_, (LogRow.toLog_change_iff hStored).2 ⟨hUpdated, rfl⟩⟩

theorem deleteLog (hLegible : Legible db) {id : CalibrationLogId} {moment : Instant} {found : Bool}
    (hMoment : moment.date.HasFourDigits) (hWrite : db.deleteLog id moment = .ok (found, after)) :
    Legible after := by
  rcases deleteLog_eq_ok hWrite with ⟨-, rfl⟩ | ⟨-, -, rfl⟩
  · exact hLegible
  · refine { hLegible with logs := forall_mem_changeRows hLegible.logs fun row hRow _ => ?_ }
    obtain ⟨stored, hStored⟩ := hLegible.logs row hRow
    exact ⟨_, (LogRow.toLog_deletion_iff hStored).2 ⟨hMoment, rfl⟩⟩

theorem insertRecord (hLegible : Legible db) {record : CalibrationRecord}
    (hCreated : record.createdAt.date.HasFourDigits)
    (hUpdated : record.updatedAt.date.HasFourDigits)
    (hWrite : db.insertRecord record = .ok after) : Legible after := by
  obtain ⟨hValue, -, -, rfl⟩ := insertRecord_eq_ok hWrite
  exact { hLegible with
    records := forall_mem_concat hLegible.records
      ⟨_, RecordRow.toRecord_ofRecord_iff.2
        ⟨storedReal_ne_null_iff.1 hValue, _, readInstant_instantText hCreated, hUpdated, rfl⟩⟩ }

theorem updateRecord (hLegible : Legible db) {record : CalibrationRecord} {found : Bool}
    (hUpdated : record.updatedAt.date.HasFourDigits)
    (hWrite : db.updateRecord record = .ok (found, after)) : Legible after := by
  rcases updateRecord_eq_ok hWrite with ⟨-, rfl⟩ | ⟨-, hValue, -, rfl⟩
  · exact hLegible
  · refine { hLegible with
      records := forall_mem_changeRows hLegible.records fun row hRow _ => ?_ }
    obtain ⟨stored, hStored⟩ := hLegible.records row hRow
    have hCreated := (RecordRow.toRecord_eq_ok hStored).2.2.1
    exact ⟨_, RecordRow.toRecord_ofRecord_iff.2
      ⟨storedReal_ne_null_iff.1 hValue, _, hCreated, hUpdated, rfl⟩⟩

theorem deleteRecord (hLegible : Legible db) {id : CalibrationRecordId} {found : Bool}
    (hWrite : db.deleteRecord id = .ok (found, after)) : Legible after := by
  rcases deleteRecord_eq_ok hWrite with ⟨-, rfl⟩ | ⟨-, -, rfl⟩
  · exact hLegible
  · exact { hLegible with
      records := fun row hRow => hLegible.records row (List.mem_of_mem_filter hRow) }

end Legible
end Database
end LawnCalibration.Store
