import LawnCalibration.Text.LetterCase

/-
Names in words joined by underscores.

An underscore goes in front of a capital that starts a word: one after a small
letter or a digit, or the last capital of a run when a small letter follows it.
-/

set_option autoImplicit false

namespace LawnCalibration.Text

/-- Whether the capital `c`, which stands after `previous` and before `next?`,
starts a word. -/
def startsWord (previous c : Char) (next? : Option Char) : Bool :=
  isUpper c && previous != '_' &&
    (isLower previous || previous.isDigit || (isUpper previous && next?.any isLower))

def snakeTail (previous : Char) : List Char → List Char
  | [] => []
  | c :: rest =>
      (if startsWord previous c rest.head? then '_' :: lowered c else lowered c) ++ snakeTail c rest

def snakeCase : List Char → List Char
  | [] => []
  | c :: rest => lowered c ++ snakeTail c rest

def snakeCased (name : String) : String :=
  String.ofList (snakeCase name.toList)

end LawnCalibration.Text
