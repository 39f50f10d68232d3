import LawnCalibration.Toml.Value

/-
TOML texts as documents.

A text is a sequence of lines: headers, which tell where the following pairs go,
and pairs of a key and a value.  A byte order mark in front does not count.
-/

set_option autoImplicit false

namespace LawnCalibration.Toml

/-- What has been read: all tables, and the path of the one that is open. -/
structure Progress where
  root : Entries
  path : List String

def Progress.start : Progress :=
  { root := [], path := [] }

def Progress.open? (opening : String → Entries → Option Entries) (path : List String)
    (progress : Progress) : Option Progress :=
  (openAt opening path progress.root).map fun root => { root, path }

def Progress.add? (key : List String) (value : Document) (progress : Progress) :
    Option Progress :=
  (within (insertValue value true key) progress.path progress.root).map fun root =>
    { progress with root }

def readHeader (closing : List Char) (text : List Char) : Option (Taken (List String)) :=
  match readKey text with
  | none => none
  | some (path, rest) =>
      if closing.isPrefixOf rest then some (path, rest.drop closing.length) else none

/-- One header or one pair, without what may follow on its line. -/
def readStatement (progress : Progress) : List Char → Option (Taken Progress)
  | '[' :: '[' :: rest => do
      let (path, rest) ← readHeader [']', ']'] rest
      return (← progress.open? openElement path, rest)
  | '[' :: rest => do
      let (path, rest) ← readHeader [']'] rest
      return (← progress.open? openTable path, rest)
  | text => do
      let ((key, value), rest) ← readPair readValue text
      return (← progress.add? key value, rest)

/-- Reads lines to the end of the text; `fuel` bounds their number. -/
def readLines : Nat → Progress → List Char → Option Progress
  | 0, _, _ => none
  | fuel + 1, progress, text =>
      match skipLines false text with
      | [] => some progress
      | start =>
          match readStatement progress start with
          | none => none
          | some (progress, rest) =>
              match finishLine? rest with
              | none => none
              | some rest => readLines fuel progress rest

def dropMark : List Char → List Char
  | '\uFEFF' :: rest => rest
  | text => text

def read? (text : String) : Option Document :=
  let chars := dropMark text.toList
  (readLines (chars.length + 1) .start chars).map fun progress =>
    .record (fieldsOf progress.root)

end LawnCalibration.Toml
