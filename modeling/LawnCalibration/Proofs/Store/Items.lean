import LawnCalibration.Proofs.Store.Decoding

/-
Entities of all kinds, what they are known by and when they are equal.
-/

set_option autoImplicit false

namespace LawnCalibration

open Store (EntityName)

inductive Item where
  | unit (value : MeasureUnit)
  | formulation (value : Formulation)
  | lawnService (value : LawnService)
  | log (value : CalibrationLog)
  | record (value : CalibrationRecord)
deriving DecidableEq

namespace Item

def key : Item → EntityName × String
  | .unit value => (.unit, value.symbol)
  | .formulation value => (.formulation, value.id.text)
  | .lawnService value => (.lawnService, value.id.text)
  | .log value => (.calibrationLog, value.id.text)
  | .record value => (.calibrationRecord, value.id.text)

def updatedAt : Item → Calendar.Instant
  | .unit value => value.updatedAt
  | .formulation value => value.updatedAt
  | .lawnService value => value.updatedAt
  | .log value => value.updatedAt
  | .record value => value.updatedAt

/-- An entity without the calibrations and records that are attached when it is read. -/
def bare : Item → Item
  | .unit value => .unit value
  | .formulation value => .formulation value
  | .lawnService value => .lawnService value
  | .log value => .log value.kept
  | .record value => .record { value with calibration := 0.0 }

theorem key_bare (item : Item) : item.bare.key = item.key := by
  cases item <;> rfl

theorem updatedAt_bare (item : Item) : item.bare.updatedAt = item.updatedAt := by
  cases item <;> rfl

end Item

-- The numbers of two entities are compared as numbers, so that zero has no sign.

def LawnService.Same (first second : LawnService) : Prop :=
  (first.targetCalibrationValue == second.targetCalibrationValue) = true ∧
    { first with targetCalibrationValue := second.targetCalibrationValue } = second

def CalibrationRecord.Same (first second : CalibrationRecord) : Prop :=
  (first.measurementValue == second.measurementValue) = true ∧
    (first.calibration == second.calibration) = true ∧
    { first with
      measurementValue := second.measurementValue
      calibration := second.calibration } = second

def CalibrationLog.Same (first second : CalibrationLog) : Prop :=
  Option.Rel (fun value other => (value == other) = true)
      first.currentCalibration second.currentCalibration ∧
    List.Forall₂ CalibrationRecord.Same first.records second.records ∧
    { first with
      currentCalibration := second.currentCalibration
      records := second.records } = second

def Item.Same : Item → Item → Prop
  | .unit first, .unit second => first = second
  | .formulation first, .formulation second => first = second
  | .lawnService first, .lawnService second => first.Same second
  | .log first, .log second => first.Same second
  | .record first, .record second => first.Same second
  | _, _ => False

theorem LawnService.same_of_kept {service : LawnService}
    (hNumber : service.targetCalibrationValue.isNaN = false) : service.kept.Same service :=
  ⟨Store.settled_beq hNumber, rfl⟩

theorem CalibrationRecord.same_of_kept {record : CalibrationRecord}
    (hNumber : record.measurementValue.isNaN = false) :
    record.kept.Same { record with calibration := 0.0 } := by
  have hZero : ((0.0 : Float) == 0.0) = true := by decide
  exact ⟨Store.settled_beq hNumber, hZero, rfl⟩

theorem CalibrationLog.same_kept (log : CalibrationLog) : log.kept.Same log.kept :=
  ⟨.none, .nil, rfl⟩

end LawnCalibration
