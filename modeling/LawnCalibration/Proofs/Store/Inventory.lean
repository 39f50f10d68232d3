import LawnCalibration.Proofs.Store.Integrity
import LawnCalibration.Proofs.Store.Items

/-
All that a database holds, as one list of rows.

A row is known by the kind of its entity and by its key.  What is read from a
row that was written is the entity that it was written for.
-/

set_option autoImplicit false

namespace LawnCalibration.Store

open Calendar (Instant)

variable {ρ α β : Type}

inductive Row where
  | unit (row : UnitRow)
  | formulation (row : FormulationRow)
  | lawnService (row : LawnServiceRow)
  | log (row : LogRow)
  | record (row : RecordRow)
deriving DecidableEq

namespace Row

def key : Row → EntityName × String
  | .unit row => (.unit, row.symbol)
  | .formulation row => (.formulation, row.id)
  | .lawnService row => (.lawnService, row.id)
  | .log row => (.calibrationLog, row.id)
  | .record row => (.calibrationRecord, row.id)

def createdAt : Row → String
  | .unit row => row.createdAt
  | .formulation row => row.createdAt
  | .lawnService row => row.createdAt
  | .log row => row.createdAt
  | .record row => row.createdAt

def read : Row → Except StoreError Item
  | .unit row => row.toUnit.map .unit
  | .formulation row => row.toFormulation.map .formulation
  | .lawnService row => row.toLawnService.map .lawnService
  | .log row => row.toLog.map .log
  | .record row => row.toRecord.map .record

/-- A row holds an entity: it has its key, and if it can be read, then as that entity.  It cannot be
read if the last change was outside of the years of four digits. -/
structure Tells (row : Row) (item : Item) : Prop where
  key : row.key = item.key
  read : ∀ found, row.read = .ok found →
    item.updatedAt.date.HasFourDigits ∧ found.Same item.bare

/-- What is attached to an entity does not matter. -/
theorem Tells.of_bare {row : Row} {item other : Item} (hTells : row.Tells item)
    (hBare : item.bare = other.bare) : row.Tells other := by
  have hKey : item.key = other.key := by
    rw [← item.key_bare, hBare, other.key_bare]
  have hUpdated : item.updatedAt = other.updatedAt := by
    rw [← item.updatedAt_bare, hBare, other.updatedAt_bare]
  refine ⟨hTells.key.trans hKey, ?_⟩
  rw [← hBare, ← hUpdated]
  exact hTells.read

end Row

theorem map_eq_ok_iff {outcome : Except StoreError α} {f : α → β} {value : β} :
    outcome.map f = .ok value ↔ ∃ found, outcome = .ok found ∧ f found = value := by
  cases outcome with
  | error error => simp [Except.map]
  | ok found => simp [Except.map]

section Written

variable {number : Int} {createdAt : String}

theorem UnitRow.tells {unit : MeasureUnit} (hCreated : ∀ created,
      readInstant "units.created_at" createdAt = .ok created → created = unit.createdAt) :
    (Row.unit { UnitRow.ofUnit number unit with createdAt }).Tells (.unit unit) := by
  refine ⟨rfl, fun found hRead => ?_⟩
  rw [Row.read, map_eq_ok_iff] at hRead
  obtain ⟨value, hValue, rfl⟩ := hRead
  obtain ⟨created, hTime, hYear, rfl⟩ := UnitRow.toUnit_ofUnit_iff.1 hValue
  obtain rfl := hCreated created hTime
  exact ⟨hYear, rfl⟩

theorem FormulationRow.tells {formulation : Formulation} (hCreated : ∀ created,
      readInstant "formulations.created_at" createdAt = .ok created →
        created = formulation.createdAt) :
    (Row.formulation { FormulationRow.ofFormulation number formulation with createdAt }).Tells
      (.formulation formulation) := by
  refine ⟨rfl, fun found hRead => ?_⟩
  rw [Row.read, map_eq_ok_iff] at hRead
  obtain ⟨value, hValue, rfl⟩ := hRead
  obtain ⟨created, hTime, hYear, rfl⟩ := FormulationRow.toFormulation_ofFormulation_iff.1 hValue
  obtain rfl := hCreated created hTime
  exact ⟨hYear, rfl⟩

theorem LawnServiceRow.tells {service : LawnService} (hCreated : ∀ created,
      readInstant "lawn_services.created_at" createdAt = .ok created →
        created = service.createdAt) :
    (Row.lawnService { LawnServiceRow.ofLawnService number service with createdAt }).Tells
      (.lawnService service) := by
  refine ⟨rfl, fun found hRead => ?_⟩
  rw [Row.read, map_eq_ok_iff] at hRead
  obtain ⟨value, hValue, rfl⟩ := hRead
  obtain ⟨hNumber, created, hTime, hYear, rfl⟩ :=
    LawnServiceRow.toLawnService_ofLawnService_iff.1 hValue
  obtain rfl := hCreated created hTime
  exact ⟨hYear, LawnService.same_of_kept hNumber⟩

theorem RecordRow.tells {record : CalibrationRecord} (hCreated : ∀ created,
      readInstant "calibration_records.created_at" createdAt = .ok created →
        created = record.createdAt) :
    (Row.record { RecordRow.ofRecord number record with createdAt }).Tells (.record record) := by
  refine ⟨rfl, fun found hRead => ?_⟩
  rw [Row.read, map_eq_ok_iff] at hRead
  obtain ⟨value, hValue, rfl⟩ := hRead
  obtain ⟨hNumber, created, hTime, hYear, rfl⟩ := RecordRow.toRecord_ofRecord_iff.1 hValue
  obtain rfl := hCreated created hTime
  exact ⟨hYear, CalibrationRecord.same_of_kept hNumber⟩

theorem LogRow.tells (log : CalibrationLog) :
    (Row.log (LogRow.ofLog number log)).Tells (.log log) := by
  refine ⟨rfl, fun found hRead => ?_⟩
  rw [Row.read, map_eq_ok_iff] at hRead
  obtain ⟨value, hValue, rfl⟩ := hRead
  obtain ⟨-, hYear, -, rfl⟩ := LogRow.toLog_ofLog_iff.1 hValue
  exact ⟨hYear, log.same_kept⟩

theorem eq_of_readInstant_instantText {column : String} {instant created : Instant}
    (hRead : readInstant column (instantText instant) = .ok created) : created = instant :=
  (readInstant_instantText_eq_ok_iff.1 hRead).2.symm

theorem eq_of_readInstant {column text : String} {instant created : Instant}
    (hText : readInstant column text = .ok instant)
    (hRead : readInstant column text = .ok created) : created = instant := by
  rw [hText] at hRead
  exact (Except.ok.inj hRead).symm

end Written

namespace Database

def table (db : Database) : EntityName → List Row
  | .unit => db.units.map .unit
  | .formulation => db.formulations.map .formulation
  | .lawnService => db.lawnServices.map .lawnService
  | .calibrationLog => db.logs.map .log
  | .calibrationRecord => db.records.map .record

def rows (db : Database) : List Row :=
  [.unit, .formulation, .lawnService, .calibrationLog, .calibrationRecord].flatMap db.table

variable {db after : Database}

@[simp] theorem mem_rows_unit {row : UnitRow} : .unit row ∈ db.rows ↔ row ∈ db.units := by
  simp [rows, table]

@[simp] theorem mem_rows_formulation {row : FormulationRow} :
    .formulation row ∈ db.rows ↔ row ∈ db.formulations := by
  simp [rows, table]

@[simp] theorem mem_rows_lawnService {row : LawnServiceRow} :
    .lawnService row ∈ db.rows ↔ row ∈ db.lawnServices := by
  simp [rows, table]

@[simp] theorem mem_rows_log {row : LogRow} : .log row ∈ db.rows ↔ row ∈ db.logs := by
  simp [rows, table]

@[simp] theorem mem_rows_record {row : RecordRow} : .record row ∈ db.rows ↔ row ∈ db.records := by
  simp [rows, table]

/-- A row stands in the table of its kind. -/
theorem mem_rows_iff {row : Row} : row ∈ db.rows ↔ row ∈ db.table row.key.1 := by
  cases row <;> simp [table, Row.key]

theorem kind_of_mem_table {kind : EntityName} {row : Row} (hRow : row ∈ db.table kind) :
    row.key.1 = kind := by
  cases kind <;> obtain ⟨row, -, rfl⟩ := List.mem_map.1 hRow <;> rfl

theorem Intact.nodup_table (hIntact : Intact db) (kind : EntityName) :
    ((db.table kind).map Row.key).Nodup := by
  have hKeys : ∀ {ρ : Type} {rows : List ρ} {column : ρ → String}, (rows.map column).Nodup →
      (rows.map fun row => (kind, column row)).Nodup := by
    intro ρ rows column hColumn
    have hPairs := hColumn.map (f := Prod.mk kind) fun _ _ hSame => (Prod.mk.inj hSame).2
    rwa [List.map_map] at hPairs
  cases kind <;> rw [table, List.map_map]
  · exact hKeys hIntact.unitSymbols
  · exact hKeys hIntact.formulationIds
  · exact hKeys hIntact.lawnServiceIds
  · exact hKeys hIntact.logIds
  · exact hKeys hIntact.recordIds

/-- No two rows have the same key. -/
theorem Intact.eq_of_key (hIntact : Intact db) {row other : Row} (hRow : row ∈ db.rows)
    (hOther : other ∈ db.rows) (hKey : row.key = other.key) : row = other := by
  rw [mem_rows_iff] at hRow hOther
  rw [← hKey] at hOther
  exact List.inj_on_of_nodup_map (hIntact.nodup_table row.key.1) hRow hOther hKey

def Has (db : Database) (item : Item) : Prop :=
  ∃ row ∈ db.rows, row.Tells item

end Database
end LawnCalibration.Store
