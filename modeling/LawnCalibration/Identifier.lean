import LawnCalibration.Text.Blank
import LawnCalibration.Text.Digits
import LawnCalibration.Text.LetterCase

/-
Identifiers of 128 bits.

An identifier belongs to one kind of entity, so that the identifier of a log is
never taken for that of a record.  It is written in five groups of small
hexadecimal digits with hyphens between them; it is also read without hyphens,
between braces, after the URN prefix, and in capital letters.
-/

set_option autoImplicit false

namespace LawnCalibration

open Text

inductive Kind where
  | user
  | formulation
  | lawnService
  | calibrationLog
  | calibrationRecord
deriving DecidableEq, Repr

structure Identifier (kind : Kind) where
  bits : BitVec 128
deriving DecidableEq, Repr

abbrev UserId := Identifier .user
abbrev FormulationId := Identifier .formulation
abbrev LawnServiceId := Identifier .lawnService
abbrev CalibrationLogId := Identifier .calibrationLog
abbrev CalibrationRecordId := Identifier .calibrationRecord

namespace Identifier

def groupLengths : List Nat := [8, 4, 4, 4, 12]

def group : List Nat → List Char → List Char
  | [], _ => []
  | [length], digits => digits.take length
  | length :: lengths, digits => digits.take length ++ '-' :: group lengths (digits.drop length)

def ungroup? : List Nat → List Char → Option (List Char)
  | [], _ => none
  | [length], text => if text.length = length then some text else none
  | length :: lengths, text =>
      match text.drop length with
      | '-' :: rest => (ungroup? lengths rest).map (text.take length ++ ·)
      | _ => none

variable {kind : Kind}

def text (id : Identifier kind) : String :=
  String.ofList (group groupLengths (fixedHexDigits 32 id.bits.toNat))

inductive ReadError where
  | character (found : Char) (position : Nat)
  | length (found : Nat)
  | groupCount (found : Nat)
  | groupLength (group expected found : Nat)
deriving DecidableEq, Repr

def ReadError.message : ReadError → String
  | .character found position =>
      "invalid character: found `" ++ String.singleton found ++ "` at " ++ decimalText position
  | .length found => "invalid length: found " ++ decimalText found
  | .groupCount found => "invalid group count: expected 5, found " ++ decimalText found
  | .groupLength group expected found =>
      "invalid group length in group " ++ decimalText group ++ ": expected " ++
        decimalText expected ++ ", found " ++ decimalText found

def urnMark : List Char :=
  ['u', 'r', 'n', ':', 'u', 'u', 'i', 'd', ':']

inductive Wrapping where
  | bare
  | braces
  | urn
deriving DecidableEq, Repr

def unwrap (text : List Char) : Wrapping × List Char :=
  if text.head? = some '\x7b' ∧ text.getLast? = some '\x7d' ∧ 2 ≤ text.length then
    (.braces, (text.drop 1).dropLast)
  else if (text.take urnMark.length).map asciiLowered = urnMark then
    (.urn, text.drop urnMark.length)
  else (.bare, text)

def Wrapping.length : Wrapping → Nat
  | .bare => 0
  | .braces => 1
  | .urn => 9

/-- The number that a well-formed text denotes.  Only a bare text may leave the hyphens out. -/
def value? (text : List Char) : Option Nat :=
  let (wrapping, inside) := unwrap text
  match ungroup? groupLengths inside with
  | some digits => hexadecimalValue? digits
  | none =>
      if wrapping = .bare ∧ inside.length = 32 then hexadecimalValue? inside else none

/-- The first character that is neither a hexadecimal digit nor a hyphen, with its byte position. -/
def firstStray : Nat → List Char → Option (Char × Nat)
  | _, [] => none
  | position, c :: rest =>
      if c = '-' ∨ (hexValue? c).isSome then firstStray (position + c.utf8Size) rest
      else some (c, position)

def hyphens (text : List Char) : List Nat :=
  (List.range text.length).filter fun position => text[position]? == some '-'

/-- The first group that does not end where it should, the last one if all others do. -/
def groupFault (inputLength : Nat) : Nat → Nat → List Nat → List Nat → ReadError
  | index, start, length :: lengths, bound :: bounds =>
      if bound = start + length then
        groupFault inputLength (index + 1) (start + length + 1) lengths bounds
      else .groupLength index length (bound - start)
  | index, start, length :: _, [] => .groupLength index length (inputLength - start)
  | index, start, [], _ => .groupLength index 0 (inputLength - start)

/-- Why a text of `size` bytes, of which the given part is to hold the digits, is no identifier.
Positions count from the byte before which `offset` bytes stand. -/
def faultInside (size offset : Nat) (hyphensOptional : Bool) (inside : List Char) : ReadError :=
  match firstStray offset inside with
  | some (found, position) => .character found position
  | none =>
      let bounds := hyphens inside
      if bounds = [] ∧ hyphensOptional then .length size
      else if bounds.length ≠ 4 then .groupCount (bounds.length + 1)
      else groupFault size 0 0 groupLengths bounds

def groupedLength : Nat :=
  groupLengths.foldr (· + ·) 0 + (groupLengths.length - 1)

/-- Why a text is no identifier.  A text with the length of one of the written forms is judged as
that form, from the first byte of its digits; no form is longer than the one after the prefix. -/
def fault (text : List Char) : ReadError :=
  let size := byteLength text
  let (wrapping, inside) := unwrap text
  if groupedLength + Wrapping.urn.length < size then .length size
  else if size = groupLengths.foldr (· + ·) 0 then faultInside size 0 true text
  else if size = groupedLength then faultInside size 0 false text
  else if byteLength inside = groupedLength then faultInside size 0 false inside
  else faultInside size wrapping.length (decide (wrapping = .bare)) inside

def readChars (text : List Char) : Except ReadError (Identifier kind) :=
  match value? text with
  | some value => .ok { bits := BitVec.ofNat 128 value }
  | none => .error (fault text)

def read (text : String) : Except ReadError (Identifier kind) :=
  readChars text.toList

end Identifier
end LawnCalibration
