import LawnCalibration.Proofs.Store.Reals
import LawnCalibration.Proofs.Store.Writes

/-
Why a write is refused.

Where the entity can be written at all, its key is not in use and what it refers
to is stored, the one reason that is left is a name, a code or a symbol in use.
-/

set_option autoImplicit false

namespace LawnCalibration.Store

private theorem demand_bind_eq_error_iff {β : Type} {entity : EntityName} {violation : Violation}
    {met : Bool} {next : Unit → Except StoreError β} {error : StoreError} :
    (demand entity violation met >>= next) = .error error ↔
      (met = false ∧ error = .conflict entity violation) ∨ (met = true ∧ next () = .error error) := by
  cases met with
  | false => simp [demand, bind, Except.bind, eq_comm]
  | true => simp [demand, bind, Except.bind]

/-- A demand that is met can be left out. -/
private theorem demand_bind_of_met {β : Type} {entity : EntityName} {violation : Violation}
    {met : Bool}
    {next : Unit → Except StoreError β} (hMet : met = true) :
    (demand entity violation met >>= next) = next () := by
  rw [hMet]
  rfl

private theorem not_holds_of_not_mem {ρ : Type} {column : ρ → String} {value : String}
    {rows : List ρ}
    (hNew : value ∉ rows.map column) : (!holds column value rows) = true := by
  rw [holds_eq_false_iff.2 hNew]
  rfl

private theorem not_holds_eq_false_iff {ρ : Type} {column : ρ → String} {value : String}
    {rows : List ρ} :
    (!holds column value rows) = false ↔ ∃ row ∈ rows, column row = value := by
  rw [Bool.not_eq_false', holds_eq_true_iff, List.mem_map]

private theorem isFree_eq_false_iff {ρ : Type} {column key : ρ → String} {value current : String}
    {rows : List ρ} :
    (!rows.any fun row => column row == value && key row != current) = false ↔
      ∃ row ∈ rows, column row = value ∧ key row ≠ current := by
  simp

namespace Database

variable {db : Database} {error : StoreError}

theorem insertUnit_eq_error_iff {unit : MeasureUnit} :
    db.insertUnit unit = .error error ↔
      (∃ row ∈ db.units, row.symbol = unit.symbol) ∧
        error = .conflict .unit (.unique "units.symbol") := by
  unfold insertUnit
  rw [demand_bind_eq_error_iff, not_holds_eq_false_iff]
  simp [pure, Except.pure]

theorem updateUnit_ne_error {unit : MeasureUnit} : db.updateUnit unit ≠ .error error := by
  unfold updateUnit
  split <;> simp

theorem insertFormulation_eq_error_iff {formulation : Formulation}
    (hId : formulation.id.text ∉ db.formulations.map FormulationRow.id) :
    db.insertFormulation formulation = .error error ↔
      (∃ row ∈ db.formulations, row.name = formulation.name) ∧
        error = .conflict .formulation (.unique "formulations.name") := by
  unfold insertFormulation
  rw [demand_bind_eq_error_iff, not_holds_eq_false_iff,
    demand_bind_of_met (not_holds_of_not_mem hId)]
  simp [pure, Except.pure]

theorem updateFormulation_eq_error_iff {formulation : Formulation}
    (hHeld : formulation.id.text ∈ db.formulations.map FormulationRow.id) :
    db.updateFormulation formulation = .error error ↔
      (∃ row ∈ db.formulations, row.name = formulation.name ∧ row.id ≠ formulation.id.text) ∧
        error = .conflict .formulation (.unique "formulations.name") := by
  unfold updateFormulation
  rw [if_pos (holds_eq_true_iff.2 hHeld), demand_bind_eq_error_iff, isFree_eq_false_iff]
  simp [pure, Except.pure]

private theorem demandTarget_bind {β : Type} {service : LawnService}
    {next : Unit → Except StoreError β} (hTarget : service.targetCalibrationValue.isNaN = false) :
    (demandTarget service >>= next) = next () :=
  demand_bind_of_met (bne_iff_ne.2 (storedReal_ne_null_iff.2 hTarget))

private theorem demandFormulation_bind {β : Type} {service : LawnService}
    {next : Unit → Except StoreError β}
    (hFormulation : service.formulationId.text ∈ db.formulations.map FormulationRow.id) :
    (demandFormulation service db >>= next) = next () :=
  demand_bind_of_met (holds_eq_true_iff.2 hFormulation)

theorem insertLawnService_eq_error_iff {service : LawnService}
    (hTarget : service.targetCalibrationValue.isNaN = false)
    (hId : service.id.text ∉ db.lawnServices.map LawnServiceRow.id)
    (hFormulation : service.formulationId.text ∈ db.formulations.map FormulationRow.id) :
    db.insertLawnService service = .error error ↔
      (∃ row ∈ db.lawnServices, row.code = service.code) ∧
        error = .conflict .lawnService (.unique "lawn_services.code") := by
  unfold insertLawnService
  rw [demandTarget_bind hTarget, demand_bind_eq_error_iff, not_holds_eq_false_iff,
    demand_bind_of_met (not_holds_of_not_mem hId), demandFormulation_bind hFormulation]
  simp [pure, Except.pure]

theorem updateLawnService_eq_error_iff {service : LawnService}
    (hHeld : service.id.text ∈ db.lawnServices.map LawnServiceRow.id)
    (hTarget : service.targetCalibrationValue.isNaN = false)
    (hFormulation : service.formulationId.text ∈ db.formulations.map FormulationRow.id) :
    db.updateLawnService service = .error error ↔
      (∃ row ∈ db.lawnServices, row.code = service.code ∧ row.id ≠ service.id.text) ∧
        error = .conflict .lawnService (.unique "lawn_services.code") := by
  unfold updateLawnService
  rw [if_pos (holds_eq_true_iff.2 hHeld), demandTarget_bind hTarget, demand_bind_eq_error_iff,
    isFree_eq_false_iff, demandFormulation_bind hFormulation]
  simp [pure, Except.pure]

-- Logs and records hold nothing that has to be unique besides their identifier.

theorem insertLog_ne_error {log : CalibrationLog} (hId : log.id.text ∉ db.logs.map LogRow.id)
    (hService : log.lawnServiceId.text ∈ db.lawnServices.map LawnServiceRow.id) :
    db.insertLog log ≠ .error error := by
  unfold insertLog demandLawnService
  rw [demand_bind_of_met (not_holds_of_not_mem hId),
    demand_bind_of_met (holds_eq_true_iff.2 hService)]
  simp [pure, Except.pure]

theorem updateLog_ne_error {log : CalibrationLog}
    (hService : log.lawnServiceId.text ∈ db.lawnServices.map LawnServiceRow.id) :
    db.updateLog log ≠ .error error := by
  unfold updateLog demandLawnService
  rw [demand_bind_of_met (holds_eq_true_iff.2 hService)]
  split <;> simp [pure, Except.pure]

theorem insertRecord_ne_error {record : CalibrationRecord}
    (hValue : record.measurementValue.isNaN = false)
    (hId : record.id.text ∉ db.records.map RecordRow.id)
    (hLog : record.calibrationLogId.text ∈ db.logs.map LogRow.id) :
    db.insertRecord record ≠ .error error := by
  unfold insertRecord demandMeasurement demandLog
  rw [demand_bind_of_met (bne_iff_ne.2 (storedReal_ne_null_iff.2 hValue)),
    demand_bind_of_met (not_holds_of_not_mem hId), demand_bind_of_met (holds_eq_true_iff.2 hLog)]
  simp [pure, Except.pure]

theorem updateRecord_ne_error {record : CalibrationRecord}
    (hValue : record.measurementValue.isNaN = false)
    (hLog : record.calibrationLogId.text ∈ db.logs.map LogRow.id) :
    db.updateRecord record ≠ .error error := by
  unfold updateRecord demandMeasurement demandLog
  rw [demand_bind_of_met (bne_iff_ne.2 (storedReal_ne_null_iff.2 hValue)),
    demand_bind_of_met (holds_eq_true_iff.2 hLog)]
  split <;> simp [pure, Except.pure]

end Database
end LawnCalibration.Store
