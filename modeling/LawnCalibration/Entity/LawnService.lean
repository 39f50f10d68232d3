import LawnCalibration.Calendar.Instant
import LawnCalibration.Entity.Validation
import LawnCalibration.Identifier

/-
Lawn services: a formulation, the rate it is to be spread at, and the formulas
by which its logs are judged.
-/

set_option autoImplicit false

namespace LawnCalibration

open Calendar (Instant)
open Entity

structure LawnServiceDraft where
  code : String
  description : String
  formulationId : FormulationId
  targetCalibrationValue : Float
  targetCalibrationUnit : String
  measurementUnit : String
  calibrationFunction : String
  differentialCalibrationFunction : String
deriving DecidableEq

/-- The target is judged after all texts; the differential formula may be empty. -/
def LawnServiceDraft.validate (draft : LawnServiceDraft) : Except Invalid Unit := do
  require .code draft.code
  require .description draft.description
  require .targetCalibrationUnit draft.targetCalibrationUnit
  require .measurementUnit draft.measurementUnit
  require .calibrationFunction draft.calibrationFunction
  requireNonNegative .targetCalibrationValue draft.targetCalibrationValue

structure LawnService extends LawnServiceDraft where
  id : LawnServiceId
  createdAt : Instant
  updatedAt : Instant
deriving DecidableEq

def LawnService.validate (service : LawnService) : Except Invalid Unit :=
  service.toLawnServiceDraft.validate

def LawnServiceDraft.make (draft : LawnServiceDraft) (id : LawnServiceId) (now : Instant) :
    LawnService :=
  { draft with id := id, createdAt := now, updatedAt := now }

structure LawnServicePatch where
  code : Option String
  description : Option String
  formulationId : Option FormulationId
  targetCalibrationValue : Option Float
  targetCalibrationUnit : Option String
  measurementUnit : Option String
  calibrationFunction : Option String
  differentialCalibrationFunction : Option String
deriving DecidableEq

def LawnServicePatch.apply (patch : LawnServicePatch) (service : LawnService) : LawnService :=
  { service with
    code := patch.code.getD service.code
    description := patch.description.getD service.description
    formulationId := patch.formulationId.getD service.formulationId
    targetCalibrationValue := patch.targetCalibrationValue.getD service.targetCalibrationValue
    targetCalibrationUnit := patch.targetCalibrationUnit.getD service.targetCalibrationUnit
    measurementUnit := patch.measurementUnit.getD service.measurementUnit
    calibrationFunction := patch.calibrationFunction.getD service.calibrationFunction
    differentialCalibrationFunction :=
      patch.differentialCalibrationFunction.getD service.differentialCalibrationFunction }

end LawnCalibration
