import LawnCalibration.Text.Digits
import LawnCalibration.Toml.Blank

/-
Strings and keys of a TOML text.

Strings stand between double quotes, where escapes count, or between single
quotes, where nothing does.  Three quotes open a string of several lines: a line
end right after them is dropped, every other one is a line feed, and up to two
quotes may stand in front of the three that close it.
-/

set_option autoImplicit false

namespace LawnCalibration.Toml

open Text

abbrev Taken (α : Type) : Type :=
  α × List Char

def Taken.cons (c : Char) (taken : Taken (List Char)) : Taken (List Char) :=
  (c :: taken.1, taken.2)

def escaped? : Char → Option Char
  | 'b' => some (Char.ofNat 8)
  | 't' => some '\t'
  | 'n' => some '\n'
  | 'f' => some (Char.ofNat 12)
  | 'r' => some '\r'
  | '"' => some '"'
  | '\\' => some '\\'
  | _ => none

def codePoint? (digits : List Char) : Option Char :=
  match hexadecimalValue? digits with
  | some n => if n.isValidChar then some (Char.ofNat n) else none
  | none => none

def readBasic : List Char → Option (Taken (List Char))
  | [] => none
  | '"' :: rest => some ([], rest)
  | '\\' :: 'u' :: a :: b :: c :: d :: rest =>
      match codePoint? [a, b, c, d] with
      | some value => (readBasic rest).map (.cons value)
      | none => none
  | '\\' :: 'U' :: a :: b :: c :: d :: e :: f :: g :: h :: rest =>
      match codePoint? [a, b, c, d, e, f, g, h] with
      | some value => (readBasic rest).map (.cons value)
      | none => none
  | '\\' :: letter :: rest =>
      match escaped? letter with
      | some value => (readBasic rest).map (.cons value)
      | none => none
  | c :: rest => if isPlain c then (readBasic rest).map (.cons c) else none

def readLiteral : List Char → Option (Taken (List Char))
  | [] => none
  | '\'' :: rest => some ([], rest)
  | c :: rest => if isPlain c then (readLiteral rest).map (.cons c) else none

/-- Whether a backslash in front of this text joins it to the next line. -/
def joinsLines (text : List Char) : Bool :=
  (dropLineEnd? (skipGap text)).isSome

/-- The rest of a string between three double quotes.  The flag tells whether
white space is being skipped after a backslash that joins lines. -/
def readLongBasic (joining : Bool) : List Char → Option (Taken (List Char))
  | [] => none
  | '"' :: '"' :: '"' :: '"' :: '"' :: rest => some (['"', '"'], rest)
  | '"' :: '"' :: '"' :: '"' :: rest => some (['"'], rest)
  | '"' :: '"' :: '"' :: rest => some ([], rest)
  | '\n' :: rest =>
      if joining then readLongBasic true rest else (readLongBasic false rest).map (.cons '\n')
  | '\r' :: '\n' :: rest =>
      if joining then readLongBasic true rest else (readLongBasic false rest).map (.cons '\n')
  | '\\' :: 'u' :: a :: b :: c :: d :: rest =>
      match codePoint? [a, b, c, d] with
      | some value => (readLongBasic false rest).map (.cons value)
      | none => none
  | '\\' :: 'U' :: a :: b :: c :: d :: e :: f :: g :: h :: rest =>
      match codePoint? [a, b, c, d, e, f, g, h] with
      | some value => (readLongBasic false rest).map (.cons value)
      | none => none
  | '\\' :: letter :: rest =>
      if joinsLines (letter :: rest) then readLongBasic true (letter :: rest)
      else
        match escaped? letter with
        | some value => (readLongBasic false rest).map (.cons value)
        | none => none
  | c :: rest =>
      if joining && isGap c then readLongBasic true rest
      else if isPlain c then (readLongBasic false rest).map (.cons c)
      else none

def readLongLiteral : List Char → Option (Taken (List Char))
  | [] => none
  | '\'' :: '\'' :: '\'' :: '\'' :: '\'' :: rest => some (['\'', '\''], rest)
  | '\'' :: '\'' :: '\'' :: '\'' :: rest => some (['\''], rest)
  | '\'' :: '\'' :: '\'' :: rest => some ([], rest)
  | '\n' :: rest => (readLongLiteral rest).map (.cons '\n')
  | '\r' :: '\n' :: rest => (readLongLiteral rest).map (.cons '\n')
  | c :: rest => if isPlain c then (readLongLiteral rest).map (.cons c) else none

/-- A line end right after the opening quotes does not count. -/
def dropFirstLineEnd (text : List Char) : List Char :=
  (dropLineEnd? text).getD text

def readString : List Char → Option (Taken (List Char))
  | '"' :: '"' :: '"' :: rest => readLongBasic false (dropFirstLineEnd rest)
  | '"' :: rest => readBasic rest
  | '\'' :: '\'' :: '\'' :: rest => readLongLiteral (dropFirstLineEnd rest)
  | '\'' :: rest => readLiteral rest
  | _ => none

def isBareKey (c : Char) : Bool :=
  c.isAlphanum || c == '-' || c == '_'

/-- One part of a key: bare, or a string of one line. -/
def readKeyPart : List Char → Option (Taken String)
  | '"' :: rest => (readBasic rest).map fun (part, rest) => (String.ofList part, rest)
  | '\'' :: rest => (readLiteral rest).map fun (part, rest) => (String.ofList part, rest)
  | text =>
      match text.takeWhile isBareKey with
      | [] => none
      | part => some (String.ofList part, text.dropWhile isBareKey)

/-- At most `limit` parts of a key with points between them and blanks around them. -/
def readKeyParts : Nat → List Char → Option (Taken (List String))
  | 0, _ => none
  | limit + 1, text =>
      match readKeyPart (skipGap text) with
      | none => none
      | some (part, rest) =>
          match skipGap rest with
          | '.' :: rest =>
              (readKeyParts limit rest).map fun (parts, rest) => (part :: parts, rest)
          | rest => some ([part], rest)

def maxDepth : Nat := 79

def readKey (text : List Char) : Option (Taken (List String)) :=
  readKeyParts maxDepth text

end LawnCalibration.Toml
