/-
What stands between the tokens of a TOML text: blanks, line ends and comments.

A comment runs to the end of its line and holds no control character other than
the tab.  A carriage return counts only in front of a line feed.
-/

set_option autoImplicit false

namespace LawnCalibration.Toml

def isGap (c : Char) : Bool :=
  c == ' ' || c == '\t'

/-- The characters of comments and of strings in one line, delimiters aside. -/
def isPlain (c : Char) : Bool :=
  c == '\t' || (0x20 ≤ c.toNat && c.toNat ≤ 0x7E) || 0x80 ≤ c.toNat

def skipGap (text : List Char) : List Char :=
  text.dropWhile isGap

def dropLineEnd? : List Char → Option (List Char)
  | '\n' :: rest => some rest
  | '\r' :: '\n' :: rest => some rest
  | _ => none

def skipComment : List Char → List Char
  | '#' :: rest => rest.dropWhile isPlain
  | text => text

def finishLine? (text : List Char) : Option (List Char) :=
  match skipComment (skipGap text) with
  | [] => some []
  | rest => dropLineEnd? rest

/-- Skips blanks, line ends and comments; the flag tells whether a comment is open. -/
def skipLines (inComment : Bool) : List Char → List Char
  | [] => []
  | '\n' :: rest => skipLines false rest
  | '\r' :: '\n' :: rest => skipLines false rest
  | c :: rest =>
      if inComment then (if isPlain c then skipLines true rest else c :: rest)
      else if isGap c then skipLines false rest
      else if c = '#' then skipLines true rest
      else c :: rest

end LawnCalibration.Toml
