import LawnCalibration.Text.Blank

/-
The rules that the fields of entities have to meet.
-/

set_option autoImplicit false

namespace LawnCalibration.Entity

inductive FieldName where
  | symbol
  | name
  | code
  | description
  | targetCalibrationUnit
  | measurementUnit
  | calibrationFunction
  | targetCalibrationValue
  | units
  | measurementValue
deriving DecidableEq, Repr

def FieldName.text : FieldName → String
  | .symbol => "symbol"
  | .name => "name"
  | .code => "code"
  | .description => "description"
  | .targetCalibrationUnit => "target_calibration_unit"
  | .measurementUnit => "measurement_unit"
  | .calibrationFunction => "calibration_function"
  | .targetCalibrationValue => "target_calibration_value"
  | .units => "units"
  | .measurementValue => "measurement_value"

inductive Fault where
  | missing
  | negativeOrNotFinite
  | notFinite
deriving DecidableEq, Repr

def Fault.text : Fault → String
  | .missing => "is required"
  | .negativeOrNotFinite => "must be a non-negative number"
  | .notFinite => "must be a finite number"

structure Invalid where
  field : FieldName
  fault : Fault
deriving DecidableEq, Repr

def Invalid.message (invalid : Invalid) : String :=
  "invalid " ++ invalid.field.text ++ ": " ++ invalid.fault.text

/-- A text has to hold something besides white space. -/
def require (field : FieldName) (text : String) : Except Invalid Unit :=
  if Text.allBlank text then .error { field, fault := .missing } else .ok ()

def requireNonNegative (field : FieldName) (value : Float) : Except Invalid Unit :=
  if value.isFinite && 0.0 ≤ value then .ok () else .error { field, fault := .negativeOrNotFinite }

def requireFinite (field : FieldName) (value : Float) : Except Invalid Unit :=
  if value.isFinite then .ok () else .error { field, fault := .notFinite }

end LawnCalibration.Entity
