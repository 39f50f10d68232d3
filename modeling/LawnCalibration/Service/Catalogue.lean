import LawnCalibration.Service.Action

/-
Units, formulations and lawn services as the service handles them.

A new entity is checked before anything is asked of the storage.  An entity that
is changed is loaded first, then what it is to refer to is looked up, and only
then are its new fields checked and written.
-/

set_option autoImplicit false

namespace LawnCalibration.Service

open Calendar (Instant)
open Service.Action

variable {σ : Type} [Storage σ]

def createUnit (draft : UnitDraft) (now : Instant) : Action σ MeasureUnit := do
  let unit := draft.make now
  check unit.validate
  add (Storage.insertUnit unit)
  return unit

def readUnits : Action σ (List MeasureUnit) :=
  query Storage.listUnits

def updateUnit (symbol : String) (patch : UnitPatch) (now : Instant) :
    Action σ MeasureUnit := do
  let unit ← load .unit symbol (Storage.loadUnit symbol)
  let unit := patch.apply unit
  check unit.validate
  let unit := { unit with updatedAt := now }
  alter .unit symbol (Storage.updateUnit unit)
  return unit

def findFormulation (id : FormulationId) : Action σ Formulation :=
  load .formulation id.text (Storage.loadFormulation id)

def createFormulation (draft : FormulationDraft) (id : FormulationId) (now : Instant) :
    Action σ Formulation := do
  check draft.validate
  let formulation := draft.make id now
  add (Storage.insertFormulation formulation)
  return formulation

def readFormulations : Action σ (List Formulation) :=
  query Storage.listFormulations

def updateFormulation (id : FormulationId) (patch : FormulationPatch) (now : Instant) :
    Action σ Formulation := do
  let formulation ← findFormulation id
  let formulation := patch.apply formulation
  check formulation.validate
  let formulation := { formulation with updatedAt := now }
  alter .formulation id.text (Storage.updateFormulation formulation)
  return formulation

def readLawnService (id : LawnServiceId) : Action σ LawnService :=
  load .lawnService id.text (Storage.loadLawnService id)

def readLawnServices : Action σ (List LawnService) :=
  query Storage.listLawnServices

def createLawnService (draft : LawnServiceDraft) (id : LawnServiceId) (now : Instant) :
    Action σ LawnService := do
  check draft.validate
  let _ ← findFormulation draft.formulationId
  let service := draft.make id now
  add (Storage.insertLawnService service)
  return service

/-- The formulas are taken as they are; one that is none shows when a log is read. -/
def updateLawnService (id : LawnServiceId) (patch : LawnServicePatch) (now : Instant) :
    Action σ LawnService := do
  let service ← readLawnService id
  if let some formulation := patch.formulationId then
    let _ ← findFormulation formulation
  let service := patch.apply service
  check service.validate
  let service := { service with updatedAt := now }
  alter .lawnService id.text (Storage.updateLawnService service)
  return service

end LawnCalibration.Service
