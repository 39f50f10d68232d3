import LawnCalibration.Calendar.Instant
import LawnCalibration.Entity.Validation
import LawnCalibration.Identifier

/-
Calibration records: single measurements of a log.
-/

set_option autoImplicit false

namespace LawnCalibration

open Calendar (Instant)
open Entity

/-- A stored measurement.  Its calibration is computed and never stored. -/
structure CalibrationRecord where
  id : CalibrationRecordId
  calibrationLogId : CalibrationLogId
  measurementValue : Float
  measurementUnit : String
  measurementArea : UInt32
  createdAt : Instant
  updatedAt : Instant
  calibration : Float
deriving DecidableEq

def validateMeasurement (unit : String) (value : Float) : Except Invalid Unit := do
  require .units unit
  requireFinite .measurementValue value

def CalibrationRecord.validate (record : CalibrationRecord) : Except Invalid Unit :=
  validateMeasurement record.measurementUnit record.measurementValue

structure RecordDraft where
  measurementValue : Float
  measurementUnit : String
  measurementArea : UInt32
deriving DecidableEq

namespace RecordDraft

def validate (draft : RecordDraft) : Except Invalid Unit :=
  validateMeasurement draft.measurementUnit draft.measurementValue

def make (draft : RecordDraft) (id : CalibrationRecordId) (log : CalibrationLogId)
    (now : Instant) : CalibrationRecord where
  id := id
  calibrationLogId := log
  measurementValue := draft.measurementValue
  measurementUnit := draft.measurementUnit
  measurementArea := draft.measurementArea
  createdAt := now
  updatedAt := now
  calibration := 0.0

end RecordDraft

structure RecordPatch where
  calibrationLogId : Option CalibrationLogId
  measurementValue : Option Float
  measurementUnit : Option String
  measurementArea : Option UInt32
deriving DecidableEq

def RecordPatch.apply (patch : RecordPatch) (record : CalibrationRecord) : CalibrationRecord :=
  { record with
    calibrationLogId := patch.calibrationLogId.getD record.calibrationLogId
    measurementValue := patch.measurementValue.getD record.measurementValue
    measurementUnit := patch.measurementUnit.getD record.measurementUnit
    measurementArea := patch.measurementArea.getD record.measurementArea }

structure RecordFilter where
  calibrationLogId : Option CalibrationLogId
deriving DecidableEq

end LawnCalibration
