import LawnCalibration.Document

/-
Tables while a TOML text is being read.

A table is opened by a header once.  A table that came about because a header or
a key passed through it may still be opened, or grow, in the way that brought it
about: headers go on where headers passed, dotted keys where dotted keys did.  A
header that passes through a list of tables goes on in its last table.
-/

set_option autoImplicit false

namespace LawnCalibration.Toml

inductive Origin where
  /-- a header of its own -/
  | header
  /-- a header of a table inside it -/
  | passage
  /-- a dotted key -/
  | dottedKey
deriving DecidableEq, Repr

inductive Node where
  /-- a value, to which nothing can be added -/
  | value (document : Document)
  | table (origin : Origin) (entries : List (String × Node))
  /-- a list of tables, each opened by a header -/
  | tables (elements : List (List (String × Node)))

abbrev Entries : Type :=
  List (String × Node)

def replace (name : String) (node : Node) (entries : Entries) : Entries :=
  entries.map fun entry => if entry.1 == name then (name, node) else entry

/-- Adds a value under a dotted key.  The flag tells whether the key may end here. -/
def insertValue (value : Document) (mayEnd : Bool) : List String → Entries → Option Entries
  | [], _ => none
  | [name], entries =>
      if mayEnd && (entries.lookup name).isNone then some (entries ++ [(name, .value value)])
      else none
  | name :: path, entries =>
      match entries.lookup name with
      | none => (insertValue value true path []).map fun inner =>
          entries ++ [(name, .table .dottedKey inner)]
      | some (.table .dottedKey inner) => (insertValue value true path inner).map fun inner =>
          replace name (.table .dottedKey inner) entries
      | some (.table .passage inner) => (insertValue value false path inner).map fun inner =>
          replace name (.table .passage inner) entries
      | some (.tables elements) =>
          match elements.getLast? with
          | none => none
          | some last => (insertValue value false path last).map fun last =>
              replace name (.tables (elements.dropLast ++ [last])) entries
      | _ => none

/-- Changes the entries that a header's path leads to; tables that are not there come about. -/
def within (change : Entries → Option Entries) : List String → Entries → Option Entries
  | [], entries => change entries
  | name :: path, entries =>
      match entries.lookup name with
      | none => (within change path []).map fun inner =>
          entries ++ [(name, .table .passage inner)]
      | some (.table origin inner) => (within change path inner).map fun inner =>
          replace name (.table origin inner) entries
      | some (.tables elements) =>
          match elements.getLast? with
          | none => none
          | some last => (within change path last).map fun last =>
              replace name (.tables (elements.dropLast ++ [last])) entries
      | some (.value _) => none

def openTable (name : String) (entries : Entries) : Option Entries :=
  match entries.lookup name with
  | none => some (entries ++ [(name, .table .header [])])
  | some (.table .passage inner) => some (replace name (.table .header inner) entries)
  | _ => none

def openElement (name : String) (entries : Entries) : Option Entries :=
  match entries.lookup name with
  | none => some (entries ++ [(name, .tables [[]])])
  | some (.tables elements) => some (replace name (.tables (elements ++ [[]])) entries)
  | _ => none

def openAt (opening : String → Entries → Option Entries) (path : List String)
    (entries : Entries) : Option Entries :=
  match path.getLast? with
  | none => none
  | some name => within (opening name) path.dropLast entries

mutual

def Node.toDocument : Node → Document
  | .value document => document
  | .table _ entries => .record (fieldsOf entries)
  | .tables elements => .list (recordsOf elements)

def fieldsOf : List (String × Node) → List (String × Document)
  | [] => []
  | (name, node) :: entries => (name, node.toDocument) :: fieldsOf entries

def recordsOf : List (List (String × Node)) → List Document
  | [] => []
  | entries :: elements => .record (fieldsOf entries) :: recordsOf elements

end

end LawnCalibration.Toml
