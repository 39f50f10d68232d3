import LawnCalibration.Proofs.Text.LetterCase
import LawnCalibration.Text.SnakeCase

/-
Names in snake case and the underscores put into them.

Apart from the underscores that are put in, a name in snake case is the lower
case of the name, character by character.  An underscore that is put in stands
between two characters, neither of which is an underscore.  A name of ASCII
characters in snake case has no capital, so that it is its own snake case.
-/

set_option autoImplicit false

namespace LawnCalibration.Text

/-- A character of a name, and whether an underscore is put in front of it. -/
structure Placed where
  separated : Bool
  char : Char
deriving DecidableEq

def Placed.written (placed : Placed) : List Char :=
  if placed.separated then '_' :: lowered placed.char else lowered placed.char

def placedTail (previous : Char) : List Char → List Placed
  | [] => []
  | c :: rest => ⟨startsWord previous c rest.head?, c⟩ :: placedTail c rest

/-- The characters of a name as snake case treats them; the first is never separated. -/
def placed : List Char → List Placed
  | [] => []
  | c :: rest => ⟨false, c⟩ :: placedTail c rest

/-- Between two texts is a place that is neither the first nor the last nor beside an underscore. -/
def StandsApart (before after : List Char) : Prop :=
  (∃ text last, before = text ++ [last] ∧ last ≠ '_') ∧
    ∃ first rest, after = first :: rest ∧ first ≠ '_'

section Places

variable {name : List Char} {front back : List Placed} {letter : Placed} {previous c d : Char}
  {next? : Option Char}

theorem snakeTail_eq (previous : Char) (name : List Char) :
    snakeTail previous name = (placedTail previous name).flatMap Placed.written := by
  induction name generalizing previous with
  | nil => rfl
  | cons c rest ih => rw [snakeTail, placedTail, List.flatMap_cons, ih, Placed.written]

theorem snakeCase_eq (name : List Char) :
    snakeCase name = (placed name).flatMap Placed.written := by
  cases name with
  | nil => rfl
  | cons c rest => rw [snakeCase, placed, List.flatMap_cons, snakeTail_eq]; rfl

private theorem map_char_placedTail (previous : Char) (name : List Char) :
    (placedTail previous name).map Placed.char = name := by
  induction name generalizing previous with
  | nil => rfl
  | cons c rest ih => rw [placedTail, List.map_cons, ih]

theorem map_char_placed (name : List Char) : (placed name).map Placed.char = name := by
  cases name with
  | nil => rfl
  | cons c rest => rw [placed, List.map_cons, map_char_placedTail]

/-- Where an underscore is put in, a word starts after the character in front of it. -/
private theorem startsWord_of_placedTail {mark : Bool}
    (hName : placedTail previous name = front ++ letter :: back)
    (hSeparated : letter.separated = true) :
    ∃ earlier before next?, ⟨mark, previous⟩ :: front = earlier ++ [before] ∧
      startsWord before.char letter.char next? = true := by
  -- `mark` is free, since of `previous` only the character counts
  induction front generalizing previous name mark with
  | nil =>
      cases name with
      | nil => cases hName
      | cons c rest =>
          obtain ⟨rfl, -⟩ := List.cons.inj hName
          exact ⟨[], ⟨mark, previous⟩, rest.head?, rfl, hSeparated⟩
  | cons first front ih =>
      cases name with
      | nil => cases hName
      | cons c rest =>
          obtain ⟨rfl, hRest⟩ := List.cons.inj hName
          obtain ⟨earlier, before, next?, hFront, hStarts⟩ := ih hRest
          exact ⟨⟨mark, previous⟩ :: earlier, before, next?, congrArg _ hFront, hStarts⟩

private theorem startsWord_of_separated (hName : placed name = front ++ letter :: back)
    (hSeparated : letter.separated = true) :
    ∃ earlier before next?, front = earlier ++ [before] ∧
      startsWord before.char letter.char next? = true := by
  cases name with
  | nil =>
      have hEmpty : ([] : List Placed) ≠ front ++ letter :: back := by simp
      exact absurd hName hEmpty
  | cons c rest =>
      cases front with
      | nil =>
          obtain ⟨rfl, -⟩ := List.cons.inj hName
          cases hSeparated
      | cons first front =>
          obtain ⟨rfl, hRest⟩ := List.cons.inj hName
          exact startsWord_of_placedTail hRest hSeparated

private theorem ne_underscore_of_startsWord (hStarts : startsWord previous c next? = true) :
    previous ≠ '_' ∧ c ≠ '_' := by
  simp only [startsWord, Bool.and_eq_true, bne_iff_ne] at hStarts
  refine ⟨hStarts.1.2, ?_⟩
  rintro rfl
  rw [isUpper_underscore] at hStarts
  cases hStarts.1.1

private theorem lowered_starts (hOther : c ≠ '_') :
    ∃ first rest, lowered c = first :: rest ∧ first ≠ '_' := by
  obtain ⟨first, rest, hForm⟩ := List.exists_cons_of_ne_nil (lowered_ne_nil c)
  refine ⟨first, rest, hForm, ?_⟩
  rintro rfl
  exact underscore_not_mem_lowered hOther (hForm ▸ List.mem_cons_self)

private theorem written_ends (hOther : letter.char ≠ '_') :
    ∃ text last, letter.written = text ++ [last] ∧ last ≠ '_' := by
  have hSome := lowered_ne_nil letter.char
  have hForm := List.dropLast_append_getLast hSome
  have hLast : (lowered letter.char).getLast hSome ≠ '_' := fun hSame =>
    underscore_not_mem_lowered hOther (hSame ▸ List.getLast_mem hSome)
  unfold Placed.written
  split
  · exact ⟨'_' :: (lowered letter.char).dropLast, _, congrArg _ hForm.symm, hLast⟩
  · exact ⟨(lowered letter.char).dropLast, _, hForm.symm, hLast⟩

theorem separator_standsApart (hName : placed name = front ++ letter :: back)
    (hSeparated : letter.separated = true) :
    StandsApart (front.flatMap Placed.written)
      (lowered letter.char ++ back.flatMap Placed.written) := by
  obtain ⟨earlier, before, next?, rfl, hStarts⟩ := startsWord_of_separated hName hSeparated
  obtain ⟨hBefore, hLetter⟩ := ne_underscore_of_startsWord hStarts
  obtain ⟨text, last, hWritten, hLast⟩ := written_ends hBefore
  obtain ⟨first, rest, hForm, hFirst⟩ := lowered_starts hLetter
  constructor
  · refine ⟨earlier.flatMap Placed.written ++ text, last, ?_, hLast⟩
    rw [List.flatMap_append, List.flatMap_singleton, hWritten, List.append_assoc]
  · exact ⟨first, rest ++ back.flatMap Placed.written, by rw [hForm, List.cons_append], hFirst⟩

end Places

private theorem filter_lowered (c : Char) :
    (lowered c).filter (· ≠ '_') = if c = '_' then [] else lowered c := by
  split
  next hUnderscore =>
    rw [hUnderscore, lowered_underscore]
    rfl
  next hOther =>
    refine List.filter_eq_self.2 fun d hMember => decide_eq_true ?_
    rintro rfl
    exact underscore_not_mem_lowered hOther hMember

private theorem filter_written (letter : Placed) :
    letter.written.filter (· ≠ '_') = (lowered letter.char).filter (· ≠ '_') := by
  unfold Placed.written
  split
  · exact List.filter_cons_of_neg (by simp)
  · rfl

private theorem flatMap_filter_lowered (name : List Char) :
    (name.flatMap fun c => (lowered c).filter (· ≠ '_')) =
      (name.filter (· ≠ '_')).flatMap lowered := by
  induction name with
  | nil => rfl
  | cons c rest ih =>
      rw [List.flatMap_cons, ih, filter_lowered]
      by_cases hUnderscore : c = '_'
      · rw [if_pos hUnderscore, List.filter_cons_of_neg (by simp [hUnderscore]), List.nil_append]
      · rw [if_neg hUnderscore, List.filter_cons_of_pos (by simp [hUnderscore]), List.flatMap_cons]

/-- Without underscores, snake case is the lower case of every character. -/
theorem filter_snakeCase (name : List Char) :
    (snakeCase name).filter (· ≠ '_') = (name.filter (· ≠ '_')).flatMap lowered :=
  calc
    (snakeCase name).filter (· ≠ '_')
      = (placed name).flatMap fun letter => (lowered letter.char).filter (· ≠ '_') := by
        rw [snakeCase_eq, List.filter_flatMap]
        simp only [filter_written]
    _ = ((placed name).map Placed.char).flatMap fun c => (lowered c).filter (· ≠ '_') :=
        by rw [List.flatMap_map]
    _ = name.flatMap fun c => (lowered c).filter (· ≠ '_') := by rw [map_char_placed]
    _ = (name.filter (· ≠ '_')).flatMap lowered := flatMap_filter_lowered name

section Ascii

variable {name : List Char}

theorem mem_snakeCase {d : Char} (hMember : d ∈ snakeCase name) :
    d = '_' ∨ ∃ c ∈ name, d ∈ lowered c := by
  rw [snakeCase_eq] at hMember
  obtain ⟨letter, hLetter, hWritten⟩ := List.mem_flatMap.1 hMember
  have hChar : letter.char ∈ name := map_char_placed name ▸ List.mem_map_of_mem hLetter
  unfold Placed.written at hWritten
  split at hWritten
  · rcases List.mem_cons.1 hWritten with hUnderscore | hForm
    · exact .inl hUnderscore
    · exact .inr ⟨letter.char, hChar, hForm⟩
  · exact .inr ⟨letter.char, hChar, hWritten⟩

theorem snakeCase_of_ascii (hAscii : ∀ c ∈ name, IsAscii c) :
    ∀ d ∈ snakeCase name, IsAscii d ∧ isUpper d = false := by
  intro d hMember
  rcases mem_snakeCase hMember with rfl | ⟨c, hChar, hForm⟩
  · decide
  · rw [lowered_of_isAscii (hAscii c hChar)] at hForm
    obtain rfl := List.mem_singleton.1 hForm
    exact ⟨isAscii_asciiLowered (hAscii c hChar), not_isUpper_asciiLowered (hAscii c hChar)⟩

private theorem lowered_eq_self {c : Char} (hSmall : IsAscii c ∧ isUpper c = false) : lowered c =
    [c] := by
  rw [lowered_of_isAscii hSmall.1, asciiLowered_of_not_isUpper hSmall.1 hSmall.2]

private theorem snakeTail_eq_self {previous : Char}
    (hSmall : ∀ c ∈ name, IsAscii c ∧ isUpper c = false) :
    snakeTail previous name = name := by
  induction name generalizing previous with
  | nil => rfl
  | cons c rest ih =>
      obtain ⟨hFirst, hRest⟩ := List.forall_mem_cons.1 hSmall
      have hInside : startsWord previous c rest.head? = false := by
        simp [startsWord, hFirst.2]
      rw [snakeTail, ih hRest, hInside, lowered_eq_self hFirst]
      rfl

/-- Nothing but capitals is changed, and nothing is put in without them. -/
theorem snakeCase_eq_self (hSmall : ∀ c ∈ name, IsAscii c ∧ isUpper c = false) :
    snakeCase name = name := by
  cases name with
  | nil => rfl
  | cons c rest =>
      obtain ⟨hFirst, hRest⟩ := List.forall_mem_cons.1 hSmall
      rw [snakeCase, snakeTail_eq_self hRest, lowered_eq_self hFirst]
      rfl

theorem snakeCase_snakeCase (hAscii : ∀ c ∈ name, IsAscii c) :
    snakeCase (snakeCase name) = snakeCase name :=
  snakeCase_eq_self (snakeCase_of_ascii hAscii)

end Ascii

end LawnCalibration.Text
