import LawnCalibration.Settings.Text
import Mathlib.Data.List.Basic

/-
The settings that a text holds.

A document gives its fields by name or, in a list, by place.  A text holds some
settings exactly when each field that its document gives has its own type, and
all other fields have their standard values.
-/

set_option autoImplicit false

namespace LawnCalibration.Settings

open Document (Slot slots?)

/-- What a document gives for a field, by the name of the field or by its place in a list. -/
def member? (place : Nat) (name : String) : Document → Option Document
  | .record fields => fields.lookup name
  | .list items => items[place]?
  | _ => none

inductive IsSection : Document → Prop
  | record (fields : List (String × Document)) : IsSection (.record fields)
  | list (items : List Document) : IsSection (.list items)

/-- A field has the value that is given for it, or else its standard value. -/
def Fills {α : Type} (decode : Document → Option α) (standard : α) (given : Option Document)
    (value : α) : Prop :=
  match given with
  | some document => decode document = some value
  | none => value = standard

def given? (sectionPlace : Nat) (sectionName : String) (place : Nat) (name : String)
    (document : Document) : Option Document :=
  (member? sectionPlace sectionName document).bind (member? place name)

/-- The settings of a document: every section that is given can hold fields, every field that is
given is of its type, and all other fields have their standard values. -/
structure Holds (document : Document) (settings : Settings) : Prop where
  database : ∀ inner ∈ member? 0 "database" document, IsSection inner
  evaluation : ∀ inner ∈ member? 1 "evaluation" document, IsSection inner
  logging : ∀ inner ∈ member? 2 "logging" document, IsSection inner
  databasePath : Fills Document.toText? standard.databasePath
    (given? 0 "database" 0 "path" document) settings.databasePath
  evaluationTimeout : Fills Document.toNatural? standard.evaluationTimeout
    (given? 1 "evaluation" 0 "timeout_ms" document) settings.evaluationTimeout
  logFilter : Fills Document.toText? standard.logFilter
    (given? 2 "logging" 0 "filter" document) settings.logFilter
  logAsJson : Fills Document.toBoolean? standard.logAsJson
    (given? 2 "logging" 1 "json" document) settings.logAsJson

def content? : Slot → Option Document
  | .given document => some document
  | _ => none

private theorem orElse_eq_some_iff {α : Type} {decode : Document → Option α} {standard value : α}
    {slot : Slot} : slot.orElse decode standard = some value ↔
      Fills decode standard (content? slot) value := by
  cases slot <;> simp [Slot.orElse, content?, Fills, eq_comm]

/-- The slots of a section hold what the section gives for its fields, in their order. -/
structure Lists (names : List String) (document : Document) (slots : List Slot) : Prop where
  length_eq : slots.length = names.length
  content : ∀ place name slot, names[place]? = some name → slots[place]? = some slot →
    content? slot = member? place name document

private theorem lists_record (names : List String) (fields : List (String × Document)) :
    ∃ slots, slots? names (.record fields) = some slots ∧ Lists names (.record fields) slots := by
  refine ⟨_, rfl, List.length_map _, ?_⟩
  intro place name slot hName hSlot
  rw [List.getElem?_map, hName, Option.map_some, Option.some.injEq] at hSlot
  subst hSlot
  cases hField : fields.lookup name with
  | none => simp [content?, member?, hField]
  | some document => simp [content?, member?, hField]

private theorem lists_list (names : List String) (items : List Document) :
    ∃ slots, sectionSlots names (.list items) = some slots ∧ Lists names (.list items) slots := by
  have hLength : (items.take names.length).length ≤ names.length := List.length_take_le _ _
  refine ⟨_, if_pos hLength, ?_, ?_⟩
  · rw [List.length_append, List.length_map, List.length_replicate]
    omega
  · intro place name slot hName hSlot
    have hPlace : place < names.length := (List.getElem?_eq_some_iff.1 hName).1
    by_cases hGiven : place < (items.take names.length).length
    · rw [List.getElem?_append_left (by rwa [List.length_map]), List.getElem?_map,
        List.getElem?_take_of_lt hPlace] at hSlot
      cases hItem : items[place]? with
      | none => simp [hItem] at hSlot
      | some item =>
          rw [hItem, Option.map_some, Option.some.injEq] at hSlot
          rw [← hSlot, content?, member?, hItem]
    · rw [List.getElem?_append_right (by rwa [List.length_map, ← Nat.not_lt])] at hSlot
      have hCut : slot = .cut := List.eq_of_mem_replicate (List.mem_of_getElem? hSlot)
      rw [List.length_take] at hGiven
      have hEnd : items.length ≤ place := by omega
      rw [hCut, member?, List.getElem?_eq_none hEnd]
      rfl

private theorem exists_sectionSlots {document : Document} (hSection : IsSection document)
    (names : List String) :
    ∃ slots, sectionSlots names document = some slots ∧ Lists names document slots := by
  cases hSection with
  | record fields => exact lists_record names fields
  | list items => exact lists_list names items

private theorem isSection_of_sectionSlots {names : List String} {document : Document}
    {slots : List Slot}
    (hSlots : sectionSlots names document = some slots) : IsSection document := by
  cases document with
  | record fields => exact .record fields
  | list items => exact .list items
  | _ => cases hSlots

section Sections

variable {document : Document}

private theorem sectionSlots_eq_some {names : List String} {slots : List Slot}
    (hSlots : sectionSlots names document = some slots) : Lists names document slots := by
  obtain ⟨others, hOthers, hLists⟩ :=
    exists_sectionSlots (isSection_of_sectionSlots hSlots) names
  rw [hSlots] at hOthers
  exact Option.some.inj hOthers ▸ hLists

/-- A section with one field. -/
theorem ofSection_one_iff {α : Type} {decode : Document → Option α} {standard value : α}
    {name : String} :
    ((sectionSlots [name] document).bind fun slots =>
      match slots with
      | [slot] => slot.orElse decode standard
      | _ => none) = some value ↔
      IsSection document ∧ Fills decode standard (member? 0 name document) value := by
  constructor
  · intro hValue
    obtain ⟨slots, hSlots, hField⟩ := Option.bind_eq_some_iff.1 hValue
    have hLists := sectionSlots_eq_some hSlots
    obtain ⟨slot, rfl⟩ := List.length_eq_one_iff.1 hLists.length_eq
    rw [orElse_eq_some_iff, hLists.content 0 name slot rfl rfl] at hField
    exact ⟨isSection_of_sectionSlots hSlots, hField⟩
  · rintro ⟨hSection, hField⟩
    obtain ⟨slots, hSlots, hLists⟩ := exists_sectionSlots hSection [name]
    obtain ⟨slot, rfl⟩ := List.length_eq_one_iff.1 hLists.length_eq
    rw [← hLists.content 0 name slot rfl rfl, ← orElse_eq_some_iff] at hField
    rw [hSlots, Option.bind_some]
    exact hField

theorem ofDatabaseSection_eq_some_iff {path : String} :
    ofDatabaseSection document = some path ↔ IsSection document ∧
      Fills Document.toText? standard.databasePath (member? 0 "path" document) path :=
  ofSection_one_iff

theorem ofEvaluationSection_eq_some_iff {timeout : Nat} :
    ofEvaluationSection document = some timeout ↔ IsSection document ∧
      Fills Document.toNatural? standard.evaluationTimeout (member? 0 "timeout_ms" document) timeout :=
  ofSection_one_iff

theorem ofLoggingSection_eq_some_iff {filter : String} {json : Bool} :
    ofLoggingSection document = some (filter, json) ↔ IsSection document ∧
      Fills Document.toText? standard.logFilter (member? 0 "filter" document) filter ∧
      Fills Document.toBoolean? standard.logAsJson (member? 1 "json" document) json := by
  unfold ofLoggingSection
  constructor
  · intro hValues
    obtain ⟨slots, hSlots, hFields⟩ := Option.bind_eq_some_iff.1 hValues
    have hLists := sectionSlots_eq_some hSlots
    obtain ⟨first, second, rfl⟩ := List.length_eq_two.1 hLists.length_eq
    obtain ⟨text, hText, hRest⟩ := Option.bind_eq_some_iff.1 hFields
    obtain ⟨flag, hFlag, hPair⟩ := Option.bind_eq_some_iff.1 hRest
    cases hPair
    rw [orElse_eq_some_iff, hLists.content 0 "filter" first rfl rfl] at hText
    rw [orElse_eq_some_iff, hLists.content 1 "json" second rfl rfl] at hFlag
    exact ⟨isSection_of_sectionSlots hSlots, hText, hFlag⟩
  · rintro ⟨hSection, hText, hFlag⟩
    obtain ⟨slots, hSlots, hLists⟩ := exists_sectionSlots hSection ["filter", "json"]
    obtain ⟨first, second, rfl⟩ := List.length_eq_two.1 hLists.length_eq
    rw [← hLists.content 0 "filter" first rfl rfl, ← orElse_eq_some_iff] at hText
    rw [← hLists.content 1 "json" second rfl rfl, ← orElse_eq_some_iff] at hFlag
    simp only [hSlots, bind, Option.bind, hText, hFlag, pure]

end Sections

/-- A section that is not given leaves its field to the standard value. -/
private theorem fills_section_iff {α : Type} {decode ofSection : Document → Option α}
    {standard value : α}
    {place : Nat} {name : String} {outer : Option Document}
    (hSection : ∀ inner value, ofSection inner = some value ↔
      IsSection inner ∧ Fills decode standard (member? place name inner) value) :
    Fills ofSection standard outer value ↔
      (∀ inner ∈ outer, IsSection inner) ∧
        Fills decode standard (outer.bind (member? place name)) value := by
  cases outer with
  | none => simp [Fills]
  | some inner =>
      simp only [Option.bind_some, Option.mem_some, forall_eq']
      exact hSection inner value

private theorem fills_database_iff {outer : Option Document} {path : String} :
    Fills ofDatabaseSection standard.databasePath outer path ↔
      (∀ inner ∈ outer, IsSection inner) ∧
        Fills Document.toText? standard.databasePath (outer.bind (member? 0 "path")) path :=
  fills_section_iff fun _ _ => ofDatabaseSection_eq_some_iff

private theorem fills_evaluation_iff {outer : Option Document} {timeout : Nat} :
    Fills ofEvaluationSection standard.evaluationTimeout outer timeout ↔
      (∀ inner ∈ outer, IsSection inner) ∧ Fills Document.toNatural? standard.evaluationTimeout
        (outer.bind (member? 0 "timeout_ms")) timeout :=
  fills_section_iff fun _ _ => ofEvaluationSection_eq_some_iff

private theorem fills_logging_iff {outer : Option Document} {filter : String} {json : Bool} :
    Fills ofLoggingSection (standard.logFilter, standard.logAsJson) outer (filter, json) ↔
      (∀ inner ∈ outer, IsSection inner) ∧
        Fills Document.toText? standard.logFilter (outer.bind (member? 0 "filter")) filter ∧
        Fills Document.toBoolean? standard.logAsJson (outer.bind (member? 1 "json")) json := by
  cases outer with
  | none => simp [Fills]
  | some inner =>
      simp only [Option.bind_some, Option.mem_some, forall_eq']
      exact ofLoggingSection_eq_some_iff

theorem ofDocument?_eq_some_iff {fields : List (String × Document)} {settings : Settings} :
    ofDocument? (.record fields) = some settings ↔ Holds (.record fields) settings := by
  obtain ⟨slots, hSlots, hLists⟩ := lists_record ["database", "evaluation", "logging"] fields
  obtain ⟨database, evaluation, logging, rfl⟩ := List.length_eq_three.1 hLists.length_eq
  have hDatabase := hLists.content 0 "database" database rfl rfl
  have hEvaluation := hLists.content 1 "evaluation" evaluation rfl rfl
  have hLogging := hLists.content 2 "logging" logging rfl rfl
  unfold ofDocument?
  simp only [hSlots, Option.bind_eq_bind, Option.bind_some, Option.bind_eq_some_iff, Prod.exists,
    orElse_eq_some_iff, fills_database_iff, fills_evaluation_iff, fills_logging_iff, hDatabase,
    hEvaluation, hLogging]
  constructor
  · rintro ⟨path, ⟨hDatabaseHolds, hPathFills⟩, timeout, ⟨hEvaluationHolds, hTimeoutFills⟩, filter,
      json, ⟨hLoggingHolds, hFilterFills, hJsonFills⟩, hSettings⟩
    cases hSettings
    exact ⟨hDatabaseHolds, hEvaluationHolds, hLoggingHolds, hPathFills, hTimeoutFills, hFilterFills,
      hJsonFills⟩
  · intro hHolds
    exact ⟨_, ⟨hHolds.database, hHolds.databasePath⟩, _, ⟨hHolds.evaluation, hHolds.evaluationTimeout⟩,
      _, _, ⟨hHolds.logging, hHolds.logFilter, hHolds.logAsJson⟩, rfl⟩

theorem record_of_read? {text : String} {document : Document}
    (hRead : Toml.read? text = some document) : ∃ fields, document = .record fields := by
  obtain ⟨progress, -, rfl⟩ := Option.map_eq_some_iff.1 hRead
  exact ⟨_, rfl⟩

/-- The settings of a text are those of its document. -/
theorem read_eq_ok_iff {text : String} {document : Document} {settings : Settings}
    (hRead : Toml.read? text = some document) : read text = .ok settings ↔ Holds document settings := by
  obtain ⟨fields, rfl⟩ := record_of_read? hRead
  rw [← ofDocument?_eq_some_iff, read, hRead, Option.bind_some]
  cases ofDocument? (.record fields) with
  | none => simp
  | some found => simp

end LawnCalibration.Settings
