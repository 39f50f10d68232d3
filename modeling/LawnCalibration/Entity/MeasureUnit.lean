import LawnCalibration.Calendar.Instant
import LawnCalibration.Entity.Validation

/-
Units of measurement, known by their symbol.
-/

set_option autoImplicit false

namespace LawnCalibration

open Calendar (Instant)
open Entity

structure MeasureUnit where
  symbol : String
  name : String
  createdAt : Instant
  updatedAt : Instant
deriving DecidableEq

def MeasureUnit.validate (unit : MeasureUnit) : Except Invalid Unit := do
  require .symbol unit.symbol
  require .name unit.name

structure UnitDraft where
  symbol : String
  name : String
deriving DecidableEq

/-- The unit of a draft; its symbol has no white space around it. -/
def UnitDraft.make (draft : UnitDraft) (now : Instant) : MeasureUnit where
  symbol := Text.trimmed draft.symbol
  name := draft.name
  createdAt := now
  updatedAt := now

structure UnitPatch where
  name : Option String
deriving DecidableEq

def UnitPatch.apply (patch : UnitPatch) (unit : MeasureUnit) : MeasureUnit :=
  { unit with name := patch.name.getD unit.name }

end LawnCalibration
