import LawnCalibration.Calendar.Instant
import LawnCalibration.Entity.Validation
import LawnCalibration.Identifier

/-
Formulations: the kinds of product that lawn services spread.
-/

set_option autoImplicit false

namespace LawnCalibration

open Calendar (Instant)
open Entity

structure Formulation where
  id : FormulationId
  name : String
  createdAt : Instant
  updatedAt : Instant
deriving DecidableEq

def Formulation.validate (formulation : Formulation) : Except Invalid Unit :=
  require .name formulation.name

structure FormulationDraft where
  name : String
deriving DecidableEq

namespace FormulationDraft

def validate (draft : FormulationDraft) : Except Invalid Unit :=
  require .name draft.name

def make (draft : FormulationDraft) (id : FormulationId) (now : Instant) : Formulation where
  id := id
  name := draft.name
  createdAt := now
  updatedAt := now

end FormulationDraft

structure FormulationPatch where
  name : Option String
deriving DecidableEq

def FormulationPatch.apply (patch : FormulationPatch) (formulation : Formulation) : Formulation :=
  { formulation with name := patch.name.getD formulation.name }

end LawnCalibration
