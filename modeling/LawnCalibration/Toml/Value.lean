import LawnCalibration.Toml.Moment
import LawnCalibration.Toml.Number
import LawnCalibration.Toml.Table

/-
Values of a TOML text as documents.

A date or a time is a record without fields.  The items of a list may stand on
several lines and may end with a comma; an inline table stands on one line and
may not.
-/

set_option autoImplicit false

namespace LawnCalibration.Toml

def readBoolean : List Char → Option (Taken Document)
  | 't' :: 'r' :: 'u' :: 'e' :: rest => some (.boolean true, rest)
  | 'f' :: 'a' :: 'l' :: 's' :: 'e' :: rest => some (.boolean false, rest)
  | _ => none

def readScalar (text : List Char) : Option (Taken Document) :=
  match text with
  | [] => none
  | c :: _ =>
      if c = '"' ∨ c = '\'' then
        (readString text).map fun (value, rest) => (.text (String.ofList value), rest)
      else if c = 't' ∨ c = 'f' then readBoolean text
      else
        match dropMoment? text with
        | some rest => some (.record [], rest)
        | none => readNumber text

/-- The rest of a list; `fuel` bounds the number of its items. -/
def readItems (item : List Char → Option (Taken Document)) :
    Nat → List Char → Option (Taken (List Document))
  | 0, _ => none
  | fuel + 1, text =>
      match skipLines false text with
      | ']' :: rest => some ([], rest)
      | start =>
          match item start with
          | none => none
          | some (value, rest) =>
              match skipLines false rest with
              | ']' :: rest => some ([value], rest)
              | ',' :: rest =>
                  (readItems item fuel rest).map fun (values, rest) => (value :: values, rest)
              | _ => none

def readPair (item : List Char → Option (Taken Document)) (text : List Char) :
    Option (Taken (List String × Document)) :=
  match readKey text with
  | some (key, '=' :: rest) =>
      (item (skipGap rest)).map fun (value, rest) => ((key, value), rest)
  | _ => none

/-- The pairs of an inline table that is not empty; `fuel` bounds their number. -/
def readPairs (item : List Char → Option (Taken Document)) :
    Nat → List Char → Entries → Option (Taken Entries)
  | 0, _, _ => none
  | fuel + 1, text, entries =>
      match readPair item text with
      | none => none
      | some ((key, value), rest) =>
          match insertValue value true key entries with
          | none => none
          | some entries =>
              match skipGap rest with
              | '\x7d' :: rest => some (entries, rest)
              | ',' :: rest => readPairs item fuel rest entries
              | _ => none

def readInlineTable (item : List Char → Option (Taken Document)) (text : List Char) :
    Option (Taken Document) :=
  match skipGap text with
  | '\x7d' :: rest => some (.record [], rest)
  | start => (readPairs item (text.length + 1) start []).map fun (entries, rest) =>
      (.record (fieldsOf entries), rest)

/-- A value that nests lists and inline tables at most `depth` deep. -/
def readValueWithin : Nat → List Char → Option (Taken Document)
  | 0, text => readScalar text
  | depth + 1, text =>
      match text with
      | '[' :: rest => (readItems (readValueWithin depth) (rest.length + 1) rest).map
          fun (items, rest) => (.list items, rest)
      | '\x7b' :: rest => readInlineTable (readValueWithin depth) rest
      | text => readScalar text

def readValue (text : List Char) : Option (Taken Document) :=
  readValueWithin maxDepth text

end LawnCalibration.Toml
