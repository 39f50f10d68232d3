import LawnCalibration.Document
import LawnCalibration.Settings
import LawnCalibration.Toml.Reader

/-
Settings from a TOML text.

Every section and every field may be left out, and unknown names do not matter.
A section may also be given as a list of the values of its fields in order.
-/

set_option autoImplicit false

namespace LawnCalibration.Settings

open Document (Slot slots?)

/-- The slots of a section; values in a list beyond its fields do not count. -/
def sectionSlots (names : List String) : Document → Option (List Slot)
  | .list items => slots? names (.list (items.take names.length))
  | document => slots? names document

def ofDatabaseSection (document : Document) : Option String := do
  match ← sectionSlots ["path"] document with
  | [path] => path.orElse Document.toText? standard.databasePath
  | _ => none

def ofEvaluationSection (document : Document) : Option Nat := do
  match ← sectionSlots ["timeout_ms"] document with
  | [timeout] => timeout.orElse Document.toNatural? standard.evaluationTimeout
  | _ => none

def ofLoggingSection (document : Document) : Option (String × Bool) := do
  match ← sectionSlots ["filter", "json"] document with
  | [filter, json] =>
      return (← filter.orElse Document.toText? standard.logFilter,
        ← json.orElse Document.toBoolean? standard.logAsJson)
  | _ => none

def ofDocument? (document : Document) : Option Settings := do
  match ← slots? ["database", "evaluation", "logging"] document with
  | [database, evaluation, logging] =>
      let databasePath ← database.orElse ofDatabaseSection standard.databasePath
      let evaluationTimeout ← evaluation.orElse ofEvaluationSection standard.evaluationTimeout
      let (logFilter, logAsJson) ←
        logging.orElse ofLoggingSection (standard.logFilter, standard.logAsJson)
      return { databasePath, evaluationTimeout, logFilter, logAsJson }
  | _ => none

/-- The settings that a text holds, whether they meet the rules or not. -/
def read (text : String) : Except SettingsError Settings :=
  match (Toml.read? text).bind ofDocument? with
  | some settings => .ok settings
  | none => .error .malformed

def ofText (text : String) : Except SettingsError Settings := do
  let settings ← read text
  settings.validate
  return settings

/-- Settings by a file and the overrides that are set.  The rules are applied to
what the overrides leave. -/
def load (around : Files.Surroundings) (path : String) (overrides : Overrides) :
    Except SettingsError Settings := do
  match around.read path with
  | .error fault => throw (.unreadable path fault)
  | .ok text =>
      let settings ← (← read text).override overrides
      settings.validate
      return settings

end LawnCalibration.Settings
