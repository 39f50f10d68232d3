import LawnCalibration.Proofs.Entity.Validation
import LawnCalibration.Proofs.Store.Writes
import LawnCalibration.Proofs.Text.Span

/-
The integrity of a database, and the writes that keep it.

Keys are told apart and written in their one form; on top of them every row
meets the rules of its entity, names and codes are unique, and every reference
names a row.  A write of a checked entity keeps all of this.
-/

set_option autoImplicit false

namespace LawnCalibration.Store

open Calendar (Instant)
open Text

/-! ### Sound rows -/

def UnitRow.Sound (row : UnitRow) : Prop :=
  allBlank row.symbol = false ∧ trimmed row.symbol = row.symbol ∧ allBlank row.name = false

def FormulationRow.Sound (row : FormulationRow) : Prop :=
  allBlank row.name = false

def LawnServiceRow.Sound (row : LawnServiceRow) : Prop :=
  (∀ text ∈ [row.code, row.description, row.targetCalibrationUnit, row.measurementUnit,
    row.calibrationFunction], allBlank text = false) ∧
  ∃ target : Float, row.targetCalibrationValue = .real target ∧ target.isFinite = true ∧ 0.0 ≤ target

def RecordRow.Sound (row : RecordRow) : Prop :=
  allBlank row.measurementUnit = false ∧
  ∃ value : Float, row.measurementValue = .real value ∧ value.isFinite = true

private theorem storedReal_eq_real {value : Float} (hStored : storedReal value ≠ .null) :
    storedReal value = .real 0.0 ∨ storedReal value = .real value := by
  unfold storedReal at hStored ⊢
  split at hStored
  · exact absurd rfl hStored
  · rename_i hNumber
    rw [if_neg hNumber]
    split
    · exact .inl rfl
    · exact .inr rfl

-- No rule is about the time of creation, which a change of a row leaves alone.

theorem LawnServiceRow.Sound.keepsCreation {row : LawnServiceRow} (hSound : row.Sound)
    (createdAt : String) : LawnServiceRow.Sound { row with createdAt } :=
  hSound

theorem RecordRow.Sound.keepsCreation {row : RecordRow} (hSound : row.Sound) (createdAt : String) :
    RecordRow.Sound { row with createdAt } :=
  hSound

theorem UnitRow.sound_ofUnit (number : Int) {unit : MeasureUnit} (hValid : unit.validate = .ok ())
    (hTrimmed : trimmed unit.symbol = unit.symbol) : (UnitRow.ofUnit number unit).Sound :=
  ⟨(MeasureUnit.validate_eq_ok_iff.1 hValid).1, hTrimmed, (MeasureUnit.validate_eq_ok_iff.1 hValid).2⟩

theorem LawnServiceRow.sound_ofLawnService {number : Int} {service : LawnService}
    (hValid : service.validate = .ok ())
    (hStored : storedReal service.targetCalibrationValue ≠ .null) :
    (LawnServiceRow.ofLawnService number service).Sound := by
  obtain ⟨hTexts, hFinite, hLower⟩ := LawnServiceDraft.validate_eq_ok_iff.1 hValid
  refine ⟨hTexts, ?_⟩
  rcases storedReal_eq_real hStored with hZero | hValue
  · exact ⟨0.0, hZero, by decide, by decide⟩
  · exact ⟨service.targetCalibrationValue, hValue, hFinite, hLower⟩

theorem RecordRow.sound_ofRecord {number : Int} {record : CalibrationRecord}
    (hValid : record.validate = .ok ()) (hStored : storedReal record.measurementValue ≠ .null) :
    (RecordRow.ofRecord number record).Sound := by
  obtain ⟨hUnit, hFinite⟩ := validateMeasurement_eq_ok_iff.1 hValid
  refine ⟨hUnit, ?_⟩
  rcases storedReal_eq_real hStored with hZero | hValue
  · exact ⟨0.0, hZero, by decide⟩
  · exact ⟨record.measurementValue, hValue, hFinite⟩

namespace Database

/-- Identifiers are told apart, and stand in the tables in their written form. -/
structure Keyed (db : Database) : Prop where
  formulationIds : (db.formulations.map FormulationRow.id).Nodup
  lawnServiceIds : (db.lawnServices.map LawnServiceRow.id).Nodup
  logIds : (db.logs.map LogRow.id).Nodup
  recordIds : (db.records.map RecordRow.id).Nodup
  lawnServiceTexts : ∀ row ∈ db.lawnServices, ∃ id : LawnServiceId, row.id = id.text
  logTexts : ∀ row ∈ db.logs, ∃ id : CalibrationLogId, row.id = id.text
  recordTexts : ∀ row ∈ db.records, ∃ id : CalibrationRecordId, row.id = id.text

structure Sound (db : Database) : Prop where
  units : ∀ row ∈ db.units, row.Sound
  formulations : ∀ row ∈ db.formulations, row.Sound
  lawnServices : ∀ row ∈ db.lawnServices, row.Sound
  records : ∀ row ∈ db.records, row.Sound
  unitSymbols : (db.units.map UnitRow.symbol).Nodup
  formulationNames : (db.formulations.map FormulationRow.name).Nodup
  lawnServiceCodes : (db.lawnServices.map LawnServiceRow.code).Nodup
  /-- every lawn service names a stored formulation -/
  formulationOf : ∀ row ∈ db.lawnServices,
    row.formulationId ∈ db.formulations.map FormulationRow.id
  /-- every log names a stored lawn service -/
  lawnServiceOf : ∀ row ∈ db.logs, row.lawnServiceId ∈ db.lawnServices.map LawnServiceRow.id
  /-- every record names a stored log, deleted or not -/
  logOf : ∀ row ∈ db.records, row.calibrationLogId ∈ db.logs.map LogRow.id

/-- The integrity of a database, as every write of a checked entity keeps it. -/
structure Intact (db : Database) : Prop extends Keyed db, Sound db

theorem intact_empty : Intact empty := by
  constructor <;> constructor <;> simp [empty]

namespace Intact

variable {db after : Database}

/-! ### Changes of one table -/

theorem changeUnits (hIntact : Intact db) {chosen : UnitRow → Bool} {change : UnitRow → UnitRow}
    (hSymbols : ∀ row, chosen row = true → (change row).symbol = row.symbol)
    (hSound : ∀ row ∈ db.units, chosen row = true → (change row).Sound) :
    Intact { db with units := changeRows chosen change db.units } := by
  have hUnique : ((changeRows chosen change db.units).map UnitRow.symbol).Nodup := by
    rw [map_changeRows hSymbols]
    exact hIntact.unitSymbols
  exact { hIntact with
    units := forall_mem_changeRows hIntact.units hSound
    unitSymbols := hUnique }

/-- The formulation of one identifier gets a new row; no other one has its name. -/
theorem changeFormulations (hIntact : Intact db) {id name : String}
    {change : FormulationRow → FormulationRow} (hId : ∀ row, (change row).id = id)
    (hName : ∀ row, (change row).name = name)
    (hOthers : ∀ row ∈ db.formulations, row.name = name → row.id = id)
    (hSound : ∀ row, (change row).Sound) :
    Intact { db with
      formulations := changeRows (fun row => row.id == id) change db.formulations } := by
  have hIds : (changeRows (fun row => row.id == id) change db.formulations).map FormulationRow.id =
      db.formulations.map FormulationRow.id :=
    map_changeRows fun row hChosen => (hId row).trans (beq_iff_eq.1 hChosen).symm
  exact { hIntact with
    formulationIds := hIds ▸ hIntact.formulationIds
    formulations := forall_mem_changeRows hIntact.formulations fun row _ _ => hSound row
    formulationNames := nodup_map_changeRows hIntact.formulationIds hIntact.formulationNames
      hName hOthers
    formulationOf := fun row hRow => hIds ▸ hIntact.formulationOf row hRow }

/-- The lawn service of one identifier gets a new row; no other one has its code. -/
theorem changeLawnServices (hIntact : Intact db) {id : LawnServiceId} {code : String}
    {change : LawnServiceRow → LawnServiceRow} (hId : ∀ row, (change row).id = id.text)
    (hCode : ∀ row, (change row).code = code)
    (hOthers : ∀ row ∈ db.lawnServices, row.code = code → row.id = id.text)
    (hSound : ∀ row, (change row).Sound)
    (hFormulation : ∀ row, (change row).formulationId ∈ db.formulations.map FormulationRow.id) :
    Intact { db with
      lawnServices := changeRows (fun row => row.id == id.text) change db.lawnServices } := by
  have hIds : (changeRows (fun row => row.id == id.text) change db.lawnServices).map
      LawnServiceRow.id = db.lawnServices.map LawnServiceRow.id :=
    map_changeRows fun row hChosen => (hId row).trans (beq_iff_eq.1 hChosen).symm
  exact { hIntact with
    lawnServiceIds := hIds ▸ hIntact.lawnServiceIds
    lawnServiceTexts := forall_mem_changeRows hIntact.lawnServiceTexts fun row _ _ => ⟨id, hId row⟩
    lawnServices := forall_mem_changeRows hIntact.lawnServices fun row _ _ => hSound row
    lawnServiceCodes := nodup_map_changeRows hIntact.lawnServiceIds hIntact.lawnServiceCodes
      hCode hOthers
    formulationOf := forall_mem_changeRows hIntact.formulationOf fun row _ _ => hFormulation row
    lawnServiceOf := fun row hRow => hIds ▸ hIntact.lawnServiceOf row hRow }

theorem changeLogs (hIntact : Intact db) {chosen : LogRow → Bool} {change : LogRow → LogRow}
    (hId : ∀ row, (change row).id = row.id)
    (hService : ∀ row ∈ db.logs,
      (change row).lawnServiceId ∈ db.lawnServices.map LawnServiceRow.id) :
    Intact { db with logs := changeRows chosen change db.logs } := by
  have hIds : (changeRows chosen change db.logs).map LogRow.id = db.logs.map LogRow.id :=
    map_changeRows fun row _ => hId row
  exact { hIntact with
    logIds := hIds ▸ hIntact.logIds
    logTexts := forall_mem_changeRows hIntact.logTexts fun row hRow _ =>
      hId row ▸ hIntact.logTexts row hRow
    lawnServiceOf := forall_mem_changeRows hIntact.lawnServiceOf fun row hRow _ => hService row hRow
    logOf := fun row hRow => hIds ▸ hIntact.logOf row hRow }

theorem changeRecords (hIntact : Intact db) {id : CalibrationRecordId}
    {change : RecordRow → RecordRow} (hId : ∀ row, (change row).id = id.text)
    (hSound : ∀ row, (change row).Sound)
    (hLog : ∀ row, (change row).calibrationLogId ∈ db.logs.map LogRow.id) :
    Intact { db with records := changeRows (fun row => row.id == id.text) change db.records } := by
  have hIds : (changeRows (fun row => row.id == id.text) change db.records).map RecordRow.id =
      db.records.map RecordRow.id :=
    map_changeRows fun row hChosen => (hId row).trans (beq_iff_eq.1 hChosen).symm
  exact { hIntact with
    recordIds := hIds ▸ hIntact.recordIds
    recordTexts := forall_mem_changeRows hIntact.recordTexts fun row _ _ => ⟨id, hId row⟩
    records := forall_mem_changeRows hIntact.records fun row _ _ => hSound row
    logOf := forall_mem_changeRows hIntact.logOf fun row _ _ => hLog row }

theorem insertUnit (hIntact : Intact db) {unit : MeasureUnit}
    (hWrite : db.insertUnit unit = .ok after) (hValid : unit.validate = .ok ())
    (hTrimmed : trimmed unit.symbol = unit.symbol) : Intact after := by
  obtain ⟨hSymbol, rfl⟩ := insertUnit_eq_ok hWrite
  exact { hIntact with
    units := forall_mem_concat hIntact.units (UnitRow.sound_ofUnit _ hValid hTrimmed)
    unitSymbols := nodup_map_concat hIntact.unitSymbols hSymbol }

theorem updateUnit (hIntact : Intact db) {unit : MeasureUnit} {found : Bool}
    (hWrite : db.updateUnit unit = .ok (found, after)) (hValid : unit.validate = .ok ()) :
    Intact after := by
  rcases updateUnit_eq_ok hWrite with ⟨-, rfl⟩ | ⟨-, rfl⟩
  · exact hIntact
  · refine hIntact.changeUnits (fun row hChosen => (beq_iff_eq.1 hChosen).symm) ?_
    intro row hRow hChosen
    have hSymbol : row.symbol = unit.symbol := beq_iff_eq.1 hChosen
    obtain ⟨-, hTrimmed, -⟩ := hIntact.units row hRow
    exact UnitRow.sound_ofUnit row.number hValid (hSymbol ▸ hTrimmed)

theorem insertFormulation (hIntact : Intact db) {formulation : Formulation}
    (hWrite : db.insertFormulation formulation = .ok after)
    (hValid : formulation.validate = .ok ()) : Intact after := by
  obtain ⟨hName, hId, rfl⟩ := insertFormulation_eq_ok hWrite
  exact { hIntact with
    formulationIds := nodup_map_concat hIntact.formulationIds hId
    formulations := forall_mem_concat hIntact.formulations (Formulation.validate_eq_ok_iff.1 hValid)
    formulationNames := nodup_map_concat hIntact.formulationNames hName
    formulationOf := fun row hRow => mem_map_concat (hIntact.formulationOf row hRow) }

theorem updateFormulation (hIntact : Intact db) {formulation : Formulation} {found : Bool}
    (hWrite : db.updateFormulation formulation = .ok (found, after))
    (hValid : formulation.validate = .ok ()) : Intact after := by
  rcases updateFormulation_eq_ok hWrite with ⟨-, rfl⟩ | ⟨-, hOthers, rfl⟩
  · exact hIntact
  · exact hIntact.changeFormulations (fun _ => rfl) (fun _ => rfl) hOthers
      fun _ => Formulation.validate_eq_ok_iff.1 hValid

theorem insertLawnService (hIntact : Intact db) {service : LawnService}
    (hWrite : db.insertLawnService service = .ok after) (hValid : service.validate = .ok ()) :
    Intact after := by
  obtain ⟨hStored, hCode, hId, hFormulation, rfl⟩ := insertLawnService_eq_ok hWrite
  exact { hIntact with
    lawnServiceIds := nodup_map_concat hIntact.lawnServiceIds hId
    lawnServiceTexts := forall_mem_concat hIntact.lawnServiceTexts ⟨service.id, rfl⟩
    lawnServices := forall_mem_concat hIntact.lawnServices
      (LawnServiceRow.sound_ofLawnService hValid hStored)
    lawnServiceCodes := nodup_map_concat hIntact.lawnServiceCodes hCode
    formulationOf := forall_mem_concat hIntact.formulationOf hFormulation
    lawnServiceOf := fun row hRow => mem_map_concat (hIntact.lawnServiceOf row hRow) }

theorem updateLawnService (hIntact : Intact db) {service : LawnService} {found : Bool}
    (hWrite : db.updateLawnService service = .ok (found, after))
    (hValid : service.validate = .ok ()) : Intact after := by
  rcases updateLawnService_eq_ok hWrite with ⟨-, rfl⟩ | ⟨-, hStored, hOthers, hFormulation, rfl⟩
  · exact hIntact
  · exact hIntact.changeLawnServices (fun _ => rfl) (fun _ => rfl) hOthers
      (fun row => (LawnServiceRow.sound_ofLawnService hValid hStored).keepsCreation row.createdAt)
      fun _ => hFormulation

theorem insertLog (hIntact : Intact db) {log : CalibrationLog}
    (hWrite : db.insertLog log = .ok after) : Intact after := by
  obtain ⟨hId, hService, rfl⟩ := insertLog_eq_ok hWrite
  exact { hIntact with
    logIds := nodup_map_concat hIntact.logIds hId
    logTexts := forall_mem_concat hIntact.logTexts ⟨log.id, rfl⟩
    lawnServiceOf := forall_mem_concat hIntact.lawnServiceOf hService
    logOf := fun row hRow => mem_map_concat (hIntact.logOf row hRow) }

theorem updateLog (hIntact : Intact db) {log : CalibrationLog} {found : Bool}
    (hWrite : db.updateLog log = .ok (found, after)) : Intact after := by
  rcases updateLog_eq_ok hWrite with ⟨-, rfl⟩ | ⟨-, hService, rfl⟩
  · exact hIntact
  · exact hIntact.changeLogs (fun _ => rfl) fun _ _ => hService

theorem deleteLog (hIntact : Intact db) {id : CalibrationLogId} {moment : Instant} {found : Bool}
    (hWrite : db.deleteLog id moment = .ok (found, after)) : Intact after := by
  rcases deleteLog_eq_ok hWrite with ⟨-, rfl⟩ | ⟨-, -, rfl⟩
  · exact hIntact
  · exact hIntact.changeLogs (fun _ => rfl) hIntact.lawnServiceOf

theorem insertRecord (hIntact : Intact db) {record : CalibrationRecord}
    (hWrite : db.insertRecord record = .ok after) (hValid : record.validate = .ok ()) :
    Intact after := by
  obtain ⟨hStored, hId, hLog, rfl⟩ := insertRecord_eq_ok hWrite
  exact { hIntact with
    recordIds := nodup_map_concat hIntact.recordIds hId
    recordTexts := forall_mem_concat hIntact.recordTexts ⟨record.id, rfl⟩
    records := forall_mem_concat hIntact.records (RecordRow.sound_ofRecord hValid hStored)
    logOf := forall_mem_concat hIntact.logOf hLog }

theorem updateRecord (hIntact : Intact db) {record : CalibrationRecord} {found : Bool}
    (hWrite : db.updateRecord record = .ok (found, after)) (hValid : record.validate = .ok ()) :
    Intact after := by
  rcases updateRecord_eq_ok hWrite with ⟨-, rfl⟩ | ⟨-, hStored, hLog, rfl⟩
  · exact hIntact
  · exact hIntact.changeRecords (fun _ => rfl)
      (fun row => (RecordRow.sound_ofRecord hValid hStored).keepsCreation row.createdAt) fun _ => hLog

theorem deleteRecord (hIntact : Intact db) {id : CalibrationRecordId} {found : Bool}
    (hWrite : db.deleteRecord id = .ok (found, after)) : Intact after := by
  rcases deleteRecord_eq_ok hWrite with ⟨-, rfl⟩ | ⟨-, -, rfl⟩
  · exact hIntact
  have hKept : ∀ row ∈ db.records.filter fun row => row.id != id.text, row ∈ db.records :=
    fun row hRow => List.mem_of_mem_filter hRow
  exact { hIntact with
    recordIds := hIntact.recordIds.sublist (List.filter_sublist.map RecordRow.id)
    recordTexts := fun row hRow => hIntact.recordTexts row (hKept row hRow)
    records := fun row hRow => hIntact.records row (hKept row hRow)
    logOf := fun row hRow => hIntact.logOf row (hKept row hRow) }

end Intact
end Database
end LawnCalibration.Store
