import LawnCalibration.Formula.Expr
import LawnCalibration.Text.LetterCase

/-
The tokens between the operands of a formula.

Space, tab, carriage return and line feed may stand around any token.  A word
operator is read in any ASCII case and only where no identifier goes on.
-/

set_option autoImplicit false

namespace LawnCalibration.Formula

open Text

structure Front (α : Type) (text : List Char) where
  value : α
  rest : List Char
  suffix : rest <:+ text
  shorter : rest.length < text.length

namespace Front

variable {α β : Type} {text longer : List Char}

/-- What stands at the front after some leading part has been passed over. -/
def widen (front : Front α text) (hSuffix : text <:+ longer) : Front α longer where
  value := front.value
  rest := front.rest
  suffix := front.suffix.trans hSuffix
  shorter := Nat.lt_of_lt_of_le front.shorter hSuffix.length_le

def map (f : α → β) (front : Front α text) : Front β text where
  value := f front.value
  rest := front.rest
  suffix := front.suffix
  shorter := front.shorter

def advance (front : Front α text) (rest : List Char) (hRest : rest <:+ front.rest) :
    Front α text where
  value := front.value
  rest := rest
  suffix := hRest.trans front.suffix
  shorter := Nat.lt_of_le_of_lt hRest.length_le front.shorter

end Front

def isSpace (c : Char) : Bool :=
  c == ' ' || c == '\t' || c == '\r' || c == '\n'

def skipSpace (text : List Char) : List Char :=
  text.dropWhile isSpace

theorem skipSpace_suffix (text : List Char) : skipSpace text <:+ text :=
  List.dropWhile_suffix isSpace

def isNameStart (c : Char) : Bool :=
  c.isAlpha || c == '_'

def isNameChar (c : Char) : Bool :=
  c.isAlphanum || c == '_'

def keywords : List (List Char) :=
  [['a', 'n', 'd'], ['o', 'r'], ['n', 'o', 't']]

def isKeyword (name : List Char) : Bool :=
  keywords.contains (name.map asciiLowered)

def dropWord : List Char → List Char → Option (List Char)
  | [], text => some text
  | letter :: word, c :: text => if asciiLowered c = letter then dropWord word text else none
  | _ :: _, [] => none

/-- What is left after a word operator: no character of a name follows it. -/
def dropKeyword (word text : List Char) : Option (List Char) :=
  match dropWord word text with
  | some rest => if rest.head?.any isNameChar then none else some rest
  | none => none

private theorem dropWord_eq {word text rest : List Char} (hDrop : dropWord word text = some rest) :
    rest = text.drop word.length ∧ word.length ≤ text.length := by
  induction word generalizing text with
  | nil =>
      simp only [dropWord, Option.some.injEq] at hDrop
      simp [hDrop]
  | cons letter word ih =>
      cases text with
      | nil => simp [dropWord] at hDrop
      | cons c text =>
          simp only [dropWord] at hDrop
          split at hDrop
          · have hTail := ih hDrop
            simp [hTail.1, hTail.2]
          · simp at hDrop

theorem dropKeyword_leaves {word text rest : List Char} (hWord : word ≠ [])
    (hDrop : dropKeyword word text = some rest) :
    rest <:+ text ∧ rest.length < text.length := by
  unfold dropKeyword at hDrop
  split at hDrop
  · rename_i after hAfter
    split at hDrop
    · simp at hDrop
    · simp only [Option.some.injEq] at hDrop
      subst hDrop
      have hEq := dropWord_eq hAfter
      have hPositive : 0 < word.length := List.length_pos_iff.2 hWord
      refine ⟨hEq.1 ▸ List.drop_suffix _ _, ?_⟩
      rw [hEq.1, List.length_drop]
      omega
  · simp at hDrop

/-- The binary operators in groups of one precedence, the loosest first. -/
inductive Level where
  | disjunction
  | conjunction
  | comparison
  | sum
  | product
deriving DecidableEq, Repr

namespace Level

/-- The group that binds one step tighter; a product has unary operands. -/
def tighter? : Level → Option Level
  | .disjunction => some .conjunction
  | .conjunction => some .comparison
  | .comparison => some .sum
  | .sum => some .product
  | .product => none

def rank : Level → Nat
  | .disjunction => 5
  | .conjunction => 4
  | .comparison => 3
  | .sum => 2
  | .product => 1

/-- An operator symbol of the group at the very front of a text, the longest first. -/
def symbol? : Level → List Char → Option (BinaryOp × List Char)
  | .disjunction, '|' :: '|' :: rest => some (.or, rest)
  | .disjunction, text => (dropKeyword ['o', 'r'] text).map (.or, ·)
  | .conjunction, '&' :: '&' :: rest => some (.and, rest)
  | .conjunction, text => (dropKeyword ['a', 'n', 'd'] text).map (.and, ·)
  | .comparison, '>' :: '=' :: rest => some (.gte, rest)
  | .comparison, '<' :: '=' :: rest => some (.lte, rest)
  | .comparison, '=' :: '=' :: rest => some (.eq, rest)
  | .comparison, '!' :: '=' :: rest => some (.neq, rest)
  | .comparison, '>' :: rest => some (.gt, rest)
  | .comparison, '<' :: rest => some (.lt, rest)
  | .sum, '+' :: rest => some (.add, rest)
  | .sum, '-' :: rest => some (.sub, rest)
  | .product, '*' :: rest => some (.mul, rest)
  | .product, '/' :: rest => some (.div, rest)
  | _, _ => none

theorem symbol?_leaves {level : Level} {text rest : List Char} {op : BinaryOp}
    (hSymbol : level.symbol? text = some (op, rest)) :
    rest <:+ text ∧ rest.length < text.length := by
  unfold symbol? at hSymbol
  split at hSymbol
  all_goals
    first
    | (simp only [Option.some.injEq, Prod.mk.injEq] at hSymbol
       obtain ⟨-, rfl⟩ := hSymbol
       constructor
       · first
         | exact List.suffix_cons _ _
         | exact (List.suffix_cons _ _).trans (List.suffix_cons _ _)
       · simp only [List.length_cons]
         omega)
    | (simp only [Option.map_eq_some_iff, Prod.mk.injEq] at hSymbol
       obtain ⟨after, hDrop, -, rfl⟩ := hSymbol
       exact dropKeyword_leaves (by simp) hDrop)
    | simp at hSymbol

def operator? (level : Level) (text : List Char) : Option (Front BinaryOp text) :=
  match hSymbol : level.symbol? (skipSpace text) with
  | none => none
  | some (op, rest) =>
      some {
        value := op
        rest := skipSpace rest
        suffix := (skipSpace_suffix rest).trans
          ((symbol?_leaves hSymbol).1.trans (skipSpace_suffix text))
        shorter := Nat.lt_of_le_of_lt (skipSpace_suffix rest).length_le
          (Nat.lt_of_lt_of_le (symbol?_leaves hSymbol).2 (skipSpace_suffix text).length_le) }

end Level
end LawnCalibration.Formula
