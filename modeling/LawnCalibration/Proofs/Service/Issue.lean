import LawnCalibration.Proofs.Service.Runs

/-
The identifiers that the calls of a run are given.

An identifier in the tables was given to some call of the run that made them.
As long as no two calls are given the same, that of a new row stands nowhere.
-/

set_option autoImplicit false

namespace LawnCalibration

namespace Store.Database

open Calendar (Instant)

def identifiers (db : Database) : Kind → List String
  | .user => []
  | .formulation => db.formulations.map FormulationRow.id
  | .lawnService => db.lawnServices.map LawnServiceRow.id
  | .calibrationLog => db.logs.map LogRow.id
  | .calibrationRecord => db.records.map RecordRow.id

variable {db after : Database} {found : Bool} {kind : Kind} {text : String}

/-- One table has one identifier more, and all others have those that they had. -/
private theorem mem_identifiers_of_insertion {own : Kind} {new : String}
    (hOwn : after.identifiers own = db.identifiers own ++ [new])
    (hOthers : ∀ other, other ≠ own → after.identifiers other = db.identifiers other)
    (hText : text ∈ after.identifiers kind) :
    text ∈ db.identifiers kind ∨ (kind = own ∧ text = new) := by
  by_cases hKind : kind = own
  · subst hKind
    rw [hOwn, List.mem_append, List.mem_singleton] at hText
    exact hText.imp_right fun hNew => ⟨rfl, hNew⟩
  · rw [hOthers kind hKind] at hText
    exact .inl hText

private theorem identifiers_of_change (own : Kind)
    (hOwn : after.identifiers own = db.identifiers own)
    (hOthers : ∀ other, other ≠ own → after.identifiers other = db.identifiers other) :
    after.identifiers = db.identifiers := by
  funext kind
  by_cases hKind : kind = own
  · rw [hKind, hOwn]
  · exact hOthers kind hKind

theorem insertUnit_identifiers {unit : MeasureUnit} (hWrite : db.insertUnit unit = .ok after) :
    after.identifiers = db.identifiers := by
  obtain ⟨-, rfl⟩ := insertUnit_eq_ok hWrite
  funext kind
  cases kind <;> rfl

theorem insertFormulation_identifiers {formulation : Formulation}
    (hWrite : db.insertFormulation formulation = .ok after) (hText : text ∈ after.identifiers kind) :
    text ∈ db.identifiers kind ∨ (kind = .formulation ∧ text = formulation.id.text) := by
  obtain ⟨-, -, rfl⟩ := insertFormulation_eq_ok hWrite
  refine mem_identifiers_of_insertion ?_ (fun other hOther => ?_) hText
  · exact List.map_append
  · cases other <;> trivial

theorem insertLawnService_identifiers {service : LawnService}
    (hWrite : db.insertLawnService service = .ok after) (hText : text ∈ after.identifiers kind) :
    text ∈ db.identifiers kind ∨ (kind = .lawnService ∧ text = service.id.text) := by
  obtain ⟨-, -, -, -, rfl⟩ := insertLawnService_eq_ok hWrite
  refine mem_identifiers_of_insertion ?_ (fun other hOther => ?_) hText
  · exact List.map_append
  · cases other <;> trivial

theorem insertLog_identifiers {log : CalibrationLog}
    (hWrite : db.insertLog log = .ok after) (hText : text ∈ after.identifiers kind) :
    text ∈ db.identifiers kind ∨ (kind = .calibrationLog ∧ text = log.id.text) := by
  obtain ⟨-, -, rfl⟩ := insertLog_eq_ok hWrite
  refine mem_identifiers_of_insertion ?_ (fun other hOther => ?_) hText
  · exact List.map_append
  · cases other <;> trivial

theorem insertRecord_identifiers {record : CalibrationRecord}
    (hWrite : db.insertRecord record = .ok after) (hText : text ∈ after.identifiers kind) :
    text ∈ db.identifiers kind ∨ (kind = .calibrationRecord ∧ text = record.id.text) := by
  obtain ⟨-, -, -, rfl⟩ := insertRecord_eq_ok hWrite
  refine mem_identifiers_of_insertion ?_ (fun other hOther => ?_) hText
  · exact List.map_append
  · cases other <;> trivial

theorem updateUnit_identifiers {unit : MeasureUnit}
    (hWrite : db.updateUnit unit = .ok (found, after)) : after.identifiers = db.identifiers := by
  rcases updateUnit_eq_ok hWrite with ⟨-, rfl⟩ | ⟨-, rfl⟩
  · rfl
  · funext kind
    cases kind <;> rfl

theorem updateFormulation_identifiers {formulation : Formulation}
    (hWrite : db.updateFormulation formulation = .ok (found, after)) :
    after.identifiers = db.identifiers := by
  rcases updateFormulation_eq_ok hWrite with ⟨-, rfl⟩ | ⟨-, -, rfl⟩
  · rfl
  · exact identifiers_of_change .formulation
      (map_changeRows fun row hChosen => (beq_iff_eq.1 hChosen).symm)
      fun other hOther => by cases other <;> trivial

theorem updateLawnService_identifiers {service : LawnService}
    (hWrite : db.updateLawnService service = .ok (found, after)) :
    after.identifiers = db.identifiers := by
  rcases updateLawnService_eq_ok hWrite with ⟨-, rfl⟩ | ⟨-, -, -, -, rfl⟩
  · rfl
  · exact identifiers_of_change .lawnService
      (map_changeRows fun row hChosen => (beq_iff_eq.1 hChosen).symm)
      fun other hOther => by cases other <;> trivial

theorem updateLog_identifiers {log : CalibrationLog}
    (hWrite : db.updateLog log = .ok (found, after)) : after.identifiers = db.identifiers := by
  rcases updateLog_eq_ok hWrite with ⟨-, rfl⟩ | ⟨-, -, rfl⟩
  · rfl
  · exact identifiers_of_change .calibrationLog (map_changeRows fun _ _ => rfl)
      fun other hOther => by cases other <;> trivial

theorem deleteLog_identifiers {id : CalibrationLogId} {moment : Instant}
    (hWrite : db.deleteLog id moment = .ok (found, after)) : after.identifiers = db.identifiers := by
  rcases deleteLog_eq_ok hWrite with ⟨-, rfl⟩ | ⟨-, -, rfl⟩
  · rfl
  · exact identifiers_of_change .calibrationLog (map_changeRows fun _ _ => rfl)
      fun other hOther => by cases other <;> trivial

theorem updateRecord_identifiers {record : CalibrationRecord}
    (hWrite : db.updateRecord record = .ok (found, after)) : after.identifiers = db.identifiers := by
  rcases updateRecord_eq_ok hWrite with ⟨-, rfl⟩ | ⟨-, -, -, rfl⟩
  · rfl
  · exact identifiers_of_change .calibrationRecord
      (map_changeRows fun row hChosen => (beq_iff_eq.1 hChosen).symm)
      fun other hOther => by cases other <;> trivial

end Store.Database

namespace Service

open Store (Database)

def Call.generates : Call → Option Kind
  | .createFormulation _ => some .formulation
  | .createLawnService _ => some .lawnService
  | .createLog _ _ => some .calibrationLog
  | .createRecord _ _ => some .calibrationRecord
  | _ => none

def Occasion.issue (kind : Kind) (occasion : Occasion) : Option (Identifier kind) :=
  if occasion.call.generates = some kind then some ⟨occasion.around.freshBits⟩ else none

/-- The identifiers of one kind that a run was given, for calls that failed too. -/
def issued (kind : Kind) (run : List Occasion) : List (Identifier kind) :=
  run.filterMap (Occasion.issue kind)

/-- No two calls that make entities of one kind are given the same identifier. -/
def FreshIds (run : List Occasion) : Prop :=
  ∀ kind, (issued kind run).Nodup

variable {db after : Database} {kind : Kind}

/-- A step brings in at most the identifier that its call was given. -/
theorem Step.identifiers {around : Circumstance} {call : Call}
    {outcome : Except ServiceError Answer} (hStep : Step around db call outcome after)
    {text : String} (hText : text ∈ after.identifiers kind) :
    text ∈ db.identifiers kind ∨
      (call.generates = some kind ∧ text = Identifier.text (⟨around.freshBits⟩ : Identifier kind)) := by
  cases hStep with
  | unitCreated hValid hWrite => exact .inl (Database.insertUnit_identifiers hWrite ▸ hText)
  | formulationCreated hValid hWrite =>
      rcases Database.insertFormulation_identifiers hWrite hText with hOld | ⟨rfl, hNew⟩
      · exact .inl hOld
      · exact .inr ⟨rfl, hNew⟩
  | lawnServiceCreated hValid hWrite =>
      rcases Database.insertLawnService_identifiers hWrite hText with hOld | ⟨rfl, hNew⟩
      · exact .inl hOld
      · exact .inr ⟨rfl, hNew⟩
  | logCreated hWrite =>
      rcases Database.insertLog_identifiers hWrite hText with hOld | ⟨rfl, hNew⟩
      · exact .inl hOld
      · exact .inr ⟨rfl, hNew⟩
  | recordCreated hValid hLog hWrite =>
      rcases Database.insertRecord_identifiers hWrite hText with hOld | ⟨rfl, hNew⟩
      · exact .inl hOld
      · exact .inr ⟨rfl, hNew⟩
  | recordDeleted hWrite =>
      obtain ⟨-, rfl⟩ := (Database.deleteRecord_eq_ok hWrite).found
      cases kind with
      | calibrationRecord => exact .inl ((List.filter_sublist.map Store.RecordRow.id).subset hText)
      | _ => exact .inl hText
  | unitUpdated hLoad hValid hWrite => exact .inl (Database.updateUnit_identifiers hWrite ▸ hText)
  | formulationUpdated hLoad hValid hWrite =>
      exact .inl (Database.updateFormulation_identifiers hWrite ▸ hText)
  | lawnServiceUpdated hLoad hValid hWrite =>
      exact .inl (Database.updateLawnService_identifiers hWrite ▸ hText)
  | logUpdated hLoad hWrite hCompletes => exact .inl (Database.updateLog_identifiers hWrite ▸ hText)
  | logDeleted hWrite => exact .inl (Database.deleteLog_identifiers hWrite ▸ hText)
  | recordUpdated hLoad hValid hWrite =>
      exact .inl (Database.updateRecord_identifiers hWrite ▸ hText)
  | _ => exact .inl hText

theorem mem_issued_concat_iff {run : List Occasion} {occasion : Occasion} {id : Identifier kind} :
    id ∈ issued kind (run ++ [occasion]) ↔
      id ∈ issued kind run ∨
        (occasion.call.generates = some kind ∧ id = ⟨occasion.around.freshBits⟩) := by
  rw [issued, List.filterMap_append, List.mem_append]
  refine or_congr_right ?_
  by_cases hKind : occasion.call.generates = some kind
  · simp [Occasion.issue, hKind]
  · simp [Occasion.issue, hKind]

/-- By induction on the run: every identifier in its database was given to one of its calls. -/
theorem exists_issued (run : List Occasion) {text : String}
    (hText : text ∈ (performAll run Database.empty).identifiers kind) :
    ∃ id ∈ issued kind run, text = id.text := by
  induction run using List.reverseRecOn with
  | nil => cases kind <;> cases hText
  | append_singleton run occasion ih =>
      rw [performAll_concat] at hText
      have hStep := step_perform occasion.call occasion.budget occasion.around
        (performAll run Database.empty)
      rcases hStep.identifiers hText with hOld | ⟨hKind, rfl⟩
      · obtain ⟨id, hId, hSame⟩ := ih hOld
        exact ⟨id, mem_issued_concat_iff.2 (.inl hId), hSame⟩
      · exact ⟨_, mem_issued_concat_iff.2 (.inr ⟨hKind, rfl⟩), rfl⟩

/-- The identifier that a call is given stands in no row yet. -/
theorem FreshIds.not_mem_identifiers {run : List Occasion} {occasion : Occasion}
    (hFresh : FreshIds (run ++ [occasion])) (hKind : occasion.call.generates = some kind) :
    Identifier.text (⟨occasion.around.freshBits⟩ : Identifier kind) ∉
      (performAll run Database.empty).identifiers kind := by
  intro hUsed
  obtain ⟨id, hId, hSame⟩ := exists_issued run hUsed
  have hDistinct := hFresh kind
  rw [issued, List.filterMap_append, List.nodup_append] at hDistinct
  refine hDistinct.2.2 id hId id ?_ rfl
  rw [← Identifier.text_injective hSame]
  simp [Occasion.issue, hKind]

end Service
end LawnCalibration
