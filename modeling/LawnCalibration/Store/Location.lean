import LawnCalibration.Files
import LawnCalibration.Store.Location.Address
import LawnCalibration.Text.LetterCase

/-
Opening a database where an address says it is.

A database lives in memory or in a file.  The path of the file is simplified
before anything is looked up: a name and the two dots after it cancel, whether
the name leads anywhere or not.  The file itself is made if it is not there and
the way it is to be used allows that.
-/

set_option autoImplicit false

namespace LawnCalibration.Store.Location

open Files (Entry Place Surroundings)

inductive ModeKind where
  | access
  | cache
deriving DecidableEq, Repr

def ModeKind.label : ModeKind → String
  | .access => "access"
  | .cache => "cache"

inductive Refusal where
  /-- a path with a character zero in it -/
  | zeroCharacter (position : Nat)
  | authority (name : String)
  | noSuchMode (kind : ModeKind) (word : String)
  | modeNotAllowed (kind : ModeKind) (word : String)
  | noSuchSystem (name : String)
  | cannotOpen (path : String)
  /-- the files beside the database cannot be made -/
  | noJournal
  | readOnly
  | notDatabase
  /-- what is written does not come back -/
  | deviceError
deriving DecidableEq, Repr

def Refusal.message : Refusal → String
  | .zeroCharacter position =>
      "nul byte found in provided data at position: " ++ Text.decimalText position
  | .authority name => "invalid uri authority: " ++ name
  | .noSuchMode kind word => "no such " ++ kind.label ++ " mode: " ++ word
  | .modeNotAllowed kind word => kind.label ++ " mode not allowed: " ++ word
  | .noSuchSystem name => "no such vfs: " ++ name
  | .cannotOpen path => "unable to open database file: " ++ path
  | .noJournal => "unable to open database file"
  | .readOnly => "attempt to write a readonly database"
  | .notDatabase => "file is not a database"
  | .deviceError => "disk I/O error"

inductive Access where
  | readOnly
  | readWrite
  | create
  | memory
deriving DecidableEq, Repr

def Access.ofWord? (word : String) : Option Access :=
  [("ro", readOnly), ("rw", readWrite), ("rwc", create), ("memory", memory)].lookup word

/-- Whether one way of use may take the place of another.  A way that allows less never gives
way to one that allows more; memory goes with everything. -/
def Access.allows : Access → Access → Bool
  | _, .memory => true
  | _, .readOnly => true
  | .readOnly, _ => false
  | .readWrite, .create => false
  | _, _ => true

def cacheWords : List String := ["shared", "private"]

def systemNames : List String := ["unix", "unix-none", "unix-dotfile", "unix-excl", "memdb"]

structure Manner where
  access : Access
  /-- the way in which files are reached, if one is asked for -/
  system? : Option String
deriving DecidableEq, Repr

def Manner.standard : Manner :=
  { access := .create, system? := none }

def Manner.apply (manner : Manner) (option : String × String) : Except Refusal Manner :=
  let (name, word) := option
  if name = "vfs" then .ok { manner with system? := some word }
  else if name = "cache" then
    if cacheWords.contains word then .ok manner else .error (.noSuchMode .cache word)
  else if name = "mode" then
    match Access.ofWord? word with
    | none => .error (.noSuchMode .access word)
    | some access =>
        if manner.access.allows access then .ok { manner with access }
        else .error (.modeNotAllowed .access word)
  else .ok manner

/-- The options take effect one after the other; the way to reach files is judged last. -/
def Manner.ofOptions (options : List (String × String)) : Except Refusal Manner := do
  let manner ← options.foldlM Manner.apply Manner.standard
  match manner.system? with
  | none => return manner
  | some name => if systemNames.contains name then return manner else throw (.noSuchSystem name)

def isYes (word : String) : Bool :=
  let digits := word.toList.takeWhile Char.isDigit
  if digits = [] then
    ["on", "yes", "true"].contains (String.ofList (word.toList.map Text.asciiLowered))
  else Text.decimalValue digits % 256 != 0

def isFixed (options : List (String × String)) : Bool :=
  ((options.lookup "immutable").map isYes).getD false

/-- The longest simplified path of a database, in bytes. -/
def maxPathLength : Nat := 504

/-- The bytes that the names of the files beside a database add to its own. -/
def journalSuffixLength : Nat := 8

def pathLength (place : Place) : Nat :=
  place.foldr (fun name length => name.utf8ByteSize + 1 + length) 0

/-- Whether looking for a name at a place fails otherwise than by finding nothing. -/
def isBlocked (around : Surroundings) (here : Place) (name : String) : Bool :=
  match around.entry? here with
  | none => false
  | some (.directory _) => decide (Files.maxNameLength < name.utf8ByteSize)
  | some _ => true

def simplify? (around : Surroundings) : List String → Place → Option Place
  | [], here => some here
  | name :: rest, here =>
      if name = "" ∨ name = "." then simplify? around rest here
      else if name = ".." then simplify? around rest here.dropLast
      else if isBlocked around here name ∨ maxPathLength < pathLength (here ++ [name]) then none
      else simplify? around rest (here ++ [name])

def canMake (around : Surroundings) (place : Place) : Bool :=
  match around.entry? place.dropLast with
  | some (.directory writable) => writable
  | _ => false

def openFile (around : Surroundings) (access : Access) (fixed : Bool) (path : String)
    (place : Place) : Except Refusal Unit :=
  match around.entry? place with
  | some (.directory _) => .error (.cannotOpen path)
  | some .sink => .error .deviceError
  | some (.file text) =>
      if text ≠ "" then .error .notDatabase
      else if access = .readOnly ∨ fixed then .error .readOnly
      else .ok ()
  | none =>
      if access = .create ∧ canMake around place then
        if fixed then .error .readOnly
        else if Files.maxNameLength < (place.getLastD "").utf8ByteSize + journalSuffixLength then
          .error .noJournal
        else .ok ()
      else .error (.cannotOpen path)

def connect (around : Surroundings) (path : String) : Except Refusal Unit := do
  let chars := path.toList
  if '\x00' ∈ chars then
    throw (.zeroCharacter (Text.byteLength (chars.takeWhile (· != '\x00'))))
  match Address.read path with
  | .error authority => throw (.authority authority)
  | .ok address =>
      let manner ← Manner.ofOptions address.options
      let inMemory := manner.access = .memory ∨ manner.system? = some "memdb" ∨
        address.file = "" ∨ address.file = ":memory:"
      if inMemory then
        if manner.access = .readOnly then throw .readOnly
      else
        let file := address.file.toList
        match simplify? around (Files.names file) (around.start file) with
        | none => throw (.cannotOpen path)
        | some place =>
            openFile around manner.access (isFixed address.options) path place

end LawnCalibration.Store.Location
