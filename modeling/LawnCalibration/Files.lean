import LawnCalibration.Text.Blank
import LawnCalibration.Text.Pieces

/-
Files and directories, and how a path leads to them.

A path is followed name by name from the root or from the working directory.
Every name but the last has to lead to a directory, and a name is looked up only
in a directory that is there.
-/

set_option autoImplicit false

namespace LawnCalibration.Files

open Text

inductive Entry where
  /-- a directory, in which new files may be made or not -/
  | directory (writable : Bool)
  | file (text : String)
  /-- a device that is always empty and keeps nothing -/
  | sink
deriving DecidableEq, Repr

/-- A place as the names that lead to it from the root. -/
abbrev Place := List String

structure Surroundings where
  entry? : Place → Option Entry
  /-- the working directory, where paths without a slash in front start -/
  working : Place

def Surroundings.isDirectory (around : Surroundings) (place : Place) : Bool :=
  match around.entry? place with
  | some (.directory _) => true
  | _ => false

def writableDirectories : List Place := [
  [], ["bin"], ["dev"], ["dev", "shm"], ["etc"], ["home"], ["lib"], ["media"], ["mnt"], ["opt"],
  ["root"], ["run"], ["sbin"], ["srv"], ["tmp"], ["usr"], ["usr", "bin"], ["usr", "lib"],
  ["usr", "local"], ["usr", "share"], ["var"], ["var", "lib"], ["var", "log"], ["var", "tmp"]]

def fixedDirectories : List Place := [["proc"], ["sys"]]

/-- The directories that are always there, with nothing else but the accounts and the sink. -/
def usualEntry? (place : Place) : Option Entry :=
  if writableDirectories.contains place then some (.directory true)
  else if fixedDirectories.contains place then some (.directory false)
  else if place = ["dev", "null"] then some .sink
  else if place = ["etc", "passwd"] then some (.file "root:x:0:0:root:/root:/bin/sh\n")
  else none

def Surroundings.usual : Surroundings :=
  { entry? := usualEntry?, working := ["srv"] }

def Surroundings.withFile (around : Surroundings) (place : Place) (text : String) :
    Surroundings :=
  { around with
    entry? := fun other => if other = place then some (.file text) else around.entry? other }

inductive Fault where
  | notFound
  | notDirectory
  | isDirectory
  | nameTooLong
  /-- the path holds a character zero -/
  | zeroCharacter
deriving DecidableEq, Repr

def Fault.message : Fault → String
  | .notFound => "No such file or directory (os error 2)"
  | .notDirectory => "Not a directory (os error 20)"
  | .isDirectory => "Is a directory (os error 21)"
  | .nameTooLong => "File name too long (os error 36)"
  | .zeroCharacter => "file name contained an unexpected NUL byte"

/-- The longest path, and the longest name in it, in bytes. -/
def maxPathLength : Nat := 4095

def maxNameLength : Nat := 255

/-- The names of a path; a slash more makes an empty name, which leads nowhere else. -/
def names (path : List Char) : List String :=
  (pieces '/' path).map String.ofList

def Surroundings.start (around : Surroundings) (path : List Char) : Place :=
  if path.head? = some '/' then [] else around.working

def Surroundings.follow (around : Surroundings) : List String → Place → Except Fault Place
  | [], here => .ok here
  | name :: rest, here =>
      if around.isDirectory here then
        if name = "" ∨ name = "." then around.follow rest here
        else if name = ".." then around.follow rest here.dropLast
        else if maxNameLength < name.utf8ByteSize then .error .nameTooLong
        else if (around.entry? (here ++ [name])).isSome then around.follow rest (here ++ [name])
        else .error .notFound
      else .error .notDirectory

def Surroundings.find (around : Surroundings) (path : String) : Except Fault Place :=
  let chars := path.toList
  if '\x00' ∈ chars then .error .zeroCharacter
  else if chars = [] then .error .notFound
  else if maxPathLength < byteLength chars then .error .nameTooLong
  else around.follow (names chars) (around.start chars)

def Surroundings.read (around : Surroundings) (path : String) : Except Fault String := do
  match around.entry? (← around.find path) with
  | some (.file text) => .ok text
  | some .sink => .ok ""
  | some (.directory _) => .error .isDirectory
  | none => .error .notFound

end LawnCalibration.Files
