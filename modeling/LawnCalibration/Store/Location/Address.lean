import LawnCalibration.Text.Blank
import LawnCalibration.Text.Digits
import LawnCalibration.Text.Pieces

/-
Addresses of databases.

An address is a path as it stands, or a URI with the scheme `file`.  In a URI
the file's name ends at the first question mark, options follow between
ampersands, and nothing counts from the first number sign on.  Two hexadecimal
digits after a percent sign stand for a byte; the byte zero ends the part that
it stands in.
-/

set_option autoImplicit false

namespace LawnCalibration.Store.Location

open Text

/-- A file by its name, empty for no file at all, with options by name and value. -/
structure Address where
  file : String
  options : List (String × String)
deriving DecidableEq, Repr

abbrev Bytes := List UInt8

def bytesOf (text : String) : Bytes :=
  text.toUTF8.toList

/-- The text that bytes encode; where they encode none, each byte beyond ASCII is replaced. -/
def textOf (bytes : Bytes) : String :=
  match String.fromUTF8? (ByteArray.mk bytes.toArray) with
  | some text => text
  | none => String.ofList (bytes.map fun byte =>
      if byte < 128 then Char.ofNat byte.toNat else Char.ofNat 0xFFFD)

def byteOf (c : Char) : UInt8 :=
  UInt8.ofNat c.toNat

def hexByte? (byte : UInt8) : Option Nat :=
  hexValue? (Char.ofNat byte.toNat)

/-- Replaces what stands for a byte by that byte, up to the byte zero. -/
def unescape : Bytes → Bytes
  | percent :: high :: low :: rest =>
      match if percent = byteOf '%' then hexByte? high else none, hexByte? low with
      | some h, some l =>
          if 16 * h + l = 0 then [] else UInt8.ofNat (16 * h + l) :: unescape rest
      | _, _ => percent :: unescape (high :: low :: rest)
  | byte :: rest => byte :: unescape rest
  | [] => []

def scheme : Bytes := bytesOf "file:"

def localAuthority : Bytes := bytesOf "localhost"

/-- The name of another machine that a URI asks for, or what follows an empty or local one. -/
def dropAuthority (text : Bytes) : Except Bytes Bytes :=
  match text with
  | first :: second :: rest =>
      if first = byteOf '/' ∧ second = byteOf '/' then
        let authority := rest.takeWhile (· ≠ byteOf '/')
        if authority = [] ∨ authority = localAuthority then
          .ok (rest.drop authority.length)
        else .error authority
      else .ok text
  | _ => .ok text

def option? (text : Bytes) : Option (String × String) :=
  let (name, value?) := cutAt (byteOf '=') text
  if unescape name = [] then none
  else some (textOf (unescape name), textOf (unescape (value?.getD [])))

def readOptions : Option Bytes → List (String × String)
  | none => []
  | some text => (pieces (byteOf '&') text).filterMap option?

def Address.read (text : String) : Except String Address :=
  let bytes := bytesOf text
  if scheme.isPrefixOf bytes then
    match dropAuthority (bytes.drop scheme.length) with
    | .error authority => .error (textOf authority)
    | .ok rest =>
        let (file, query?) := cutAt (byteOf '?') (rest.takeWhile (· ≠ byteOf '#'))
        .ok { file := textOf (unescape file), options := readOptions query? }
  else .ok { file := text, options := [] }

end LawnCalibration.Store.Location
