import LawnCalibration.Entity.CalibrationRecord
import LawnCalibration.Entity.Formulation
import LawnCalibration.Entity.LawnService
import LawnCalibration.Entity.MeasureUnit
import Mathlib.Tactic.Common

/-
What an entity that has been checked is known to meet.
-/

set_option autoImplicit false

namespace LawnCalibration

open Text
open Entity

namespace Entity

variable {field : FieldName} {α : Type} {outcome : α}

theorem require_eq_ok_iff {text : String} : require field text = .ok () ↔ allBlank text = false := by
  unfold require
  split
  · rename_i hBlank
    simp [hBlank]
  · rename_i hText
    simpa using hText

private theorem require_bind_eq_ok_iff {text : String} {next : Unit → Except Invalid α} :
    (require field text >>= next) = .ok outcome ↔ allBlank text = false ∧ next () = .ok outcome := by
  unfold require
  split
  · rename_i hBlank
    simp [hBlank, bind, Except.bind]
  · rename_i hText
    rw [Bool.not_eq_true] at hText
    simp [hText, bind, Except.bind]

theorem requireNonNegative_eq_ok_iff {value : Float} :
    requireNonNegative field value = .ok () ↔ value.isFinite = true ∧ 0.0 ≤ value := by
  unfold requireNonNegative
  split
  · rename_i hValue
    simpa using hValue
  · rename_i hValue
    simpa using hValue

theorem requireFinite_eq_ok_iff {value : Float} :
    requireFinite field value = .ok () ↔ value.isFinite = true := by
  unfold requireFinite
  split
  · rename_i hValue
    simpa using hValue
  · rename_i hValue
    simpa using hValue

end Entity

theorem MeasureUnit.validate_eq_ok_iff {unit : MeasureUnit} :
    unit.validate = .ok () ↔ allBlank unit.symbol = false ∧ allBlank unit.name = false := by
  rw [validate, require_bind_eq_ok_iff, require_eq_ok_iff]

theorem Formulation.validate_eq_ok_iff {formulation : Formulation} :
    formulation.validate = .ok () ↔ allBlank formulation.name = false :=
  require_eq_ok_iff

theorem FormulationDraft.validate_eq_ok_iff {draft : FormulationDraft} :
    draft.validate = .ok () ↔ allBlank draft.name = false :=
  require_eq_ok_iff

theorem LawnServiceDraft.validate_eq_ok_iff {draft : LawnServiceDraft} :
    draft.validate = .ok () ↔
      (∀ text ∈ [draft.code, draft.description, draft.targetCalibrationUnit, draft.measurementUnit,
        draft.calibrationFunction], allBlank text = false) ∧
      draft.targetCalibrationValue.isFinite = true ∧ 0.0 ≤ draft.targetCalibrationValue := by
  simp only [validate, require_bind_eq_ok_iff, requireNonNegative_eq_ok_iff, List.forall_mem_cons,
    List.not_mem_nil, false_implies, implies_true, and_true, and_assoc]

theorem validateMeasurement_eq_ok_iff {unit : String} {value : Float} :
    validateMeasurement unit value = .ok () ↔ allBlank unit = false ∧ value.isFinite = true := by
  rw [validateMeasurement, require_bind_eq_ok_iff, requireFinite_eq_ok_iff]

end LawnCalibration
