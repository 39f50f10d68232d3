import LawnCalibration.Text.Digits
import LawnCalibration.Text.Quoted.Table

/-
Texts between double quotes, every character visible.

A quote and a backslash get a backslash in front; the tab, line feed, carriage
return and null character have letters of their own; any other character that
would not be seen is written by its code point in hexadecimal.
-/

set_option autoImplicit false

namespace LawnCalibration.Text.Quoted

def isHidden (c : Char) : Bool :=
  let n := c.toNat
  if n < 127 then n < 32
  else hiddenRuns.any fun part => part.any fun run => run.1 ≤ n && n ≤ run.2

def hexDigits (n : Nat) : List Char :=
  Nat.toDigits 16 n

def encodeChar (c : Char) : List Char :=
  if c = '"' then ['\\', '"']
  else if c = '\\' then ['\\', '\\']
  else if c = '\n' then ['\\', 'n']
  else if c = '\t' then ['\\', 't']
  else if c = '\r' then ['\\', 'r']
  else if c.toNat = 0 then ['\\', '0']
  else if isHidden c then ['\\', 'u', '\x7b'] ++ hexDigits c.toNat ++ ['\x7d']
  else [c]

def encode (text : String) : String :=
  String.ofList ('"' :: text.toList.flatMap encodeChar ++ ['"'])

end LawnCalibration.Text.Quoted
