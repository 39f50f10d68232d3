import LawnCalibration.Text.Blank
import Mathlib.Data.List.TakeWhile
import Mathlib.Data.List.DropRight

/-
The longest run of one kind of character at the front of a text, and trimming.
-/

set_option autoImplicit false

namespace LawnCalibration.Text

section Runs

variable {p : Char → Bool} {front rest text : List Char}

theorem takeWhile_run (hFront : ∀ c ∈ front, p c = true)
    (hRest : ∀ c, rest.head? = some c → p c = false) : (front ++ rest).takeWhile p = front := by
  rw [List.takeWhile_append_of_pos hFront]
  cases rest with
  | nil => simp
  | cons c tail => simp [hRest c rfl]

theorem dropWhile_run (hFront : ∀ c ∈ front, p c = true)
    (hRest : ∀ c, rest.head? = some c → p c = false) : (front ++ rest).dropWhile p = rest := by
  rw [List.dropWhile_append_of_pos hFront]
  cases rest with
  | nil => rfl
  | cons c tail => simp [hRest c rfl]

theorem head?_dropWhile_run {c : Char} (hHead : (text.dropWhile p).head? = some c) :
    p c = false := by
  have hNot := List.head?_dropWhile_not p text
  rw [hHead] at hNot
  simpa using hNot

theorem forall_mem_takeWhile : ∀ c ∈ text.takeWhile p, p c = true :=
  fun _ hMember => List.mem_takeWhile_imp hMember

end Runs

section Trimming

variable {text rest : List Char}

private theorem trim_eq_rdropWhile (text : List Char) :
    trim text = (text.dropWhile isBlank).rdropWhile isBlank := rfl

/-- Trimming leaves nothing exactly of a blank text. -/
theorem trim_eq_nil_iff : trim text = [] ↔ ∀ c ∈ text, isBlank c = true := by
  rw [trim_eq_rdropWhile, List.rdropWhile_eq_nil_iff]
  constructor
  · intro hBlank c hMember
    rw [← List.takeWhile_append_dropWhile (p := isBlank) (l := text)] at hMember
    rcases List.mem_append.1 hMember with hMember | hMember
    · exact forall_mem_takeWhile c hMember
    · exact hBlank c hMember
  · exact fun hBlank c hMember => hBlank c ((List.dropWhile_suffix isBlank).subset hMember)

/-- A trimmed text starts with no blank. -/
theorem isBlank_head?_trim {c : Char} (hHead : (trim text).head? = some c) :
    isBlank c = false := by
  obtain ⟨behind, hPrefix⟩ := trimEnd_prefix (trimStart text)
  have hStart : (text.dropWhile isBlank).head? = some c := by
    change (trimStart text).head? = some c
    rw [← hPrefix, List.head?_append, show (trimEnd (trimStart text)).head? = some c from hHead]
    rfl
  exact head?_dropWhile_run hStart

/-- A trimmed text ends with no blank. -/
theorem eq_nil_of_suffix_trim (hSuffix : rest <:+ trim text) (hBlank : ∀ c ∈ rest, isBlank c = true) :
    rest = [] := by
  by_contra hRest
  obtain ⟨front, hFront⟩ := hSuffix
  have hTrim : trim text ≠ [] := by
    rw [← hFront]
    exact List.append_ne_nil_of_right_ne_nil front hRest
  have hLast : ¬ isBlank ((trim text).getLast hTrim) = true :=
    List.rdropWhile_last_not isBlank (text.dropWhile isBlank) hTrim
  have hSame : (trim text).getLast hTrim = rest.getLast hRest := by
    rw [List.getLast_congr _ (List.append_ne_nil_of_right_ne_nil front hRest) hFront.symm,
      List.getLast_append_of_ne_nil _ hRest]
  rw [hSame] at hLast
  exact hLast (hBlank _ (List.getLast_mem hRest))

theorem trimStart_eq_self (hHead : ∀ c, text.head? = some c → isBlank c = false) :
    trimStart text = text := by
  cases text with
  | nil => rfl
  | cons c tail => exact List.dropWhile_cons_of_neg (by simp [hHead c rfl])

theorem trimEnd_append_cons {c : Char} (front text : List Char) (hBlank : isBlank c = false) :
    trimEnd (front ++ c :: text) = front ++ c :: trimEnd text := by
  have hKept : (c :: front.reverse).dropWhile isBlank = c :: front.reverse :=
    List.dropWhile_cons_of_neg (by simp [hBlank])
  unfold trimEnd
  rw [List.reverse_append, List.reverse_cons, List.append_assoc, List.singleton_append,
    List.dropWhile_append, hKept]
  split
  · rename_i hEmpty
    rw [List.isEmpty_iff.1 hEmpty]
    simp
  · simp

theorem trimEnd_eq_nil (hBlank : ∀ c ∈ text, isBlank c = true) : trimEnd text = [] :=
  List.rdropWhile_eq_nil_iff.2 hBlank

/-- The end of a trimmed text is only trimmed at its start. -/
theorem trim_of_suffix_trim (hSuffix : rest <:+ trim text) : trim rest = trimStart rest := by
  refine List.rdropWhile_eq_self_iff.2 fun hSome hBlank => ?_
  have hLast : [(trimStart rest).getLast hSome] <:+ trimStart rest :=
    ⟨_, List.dropLast_append_getLast hSome⟩
  have hEmpty := eq_nil_of_suffix_trim (hLast.trans ((trimStart_suffix rest).trans hSuffix))
    (by simpa using hBlank)
  cases hEmpty

theorem trim_trim (text : List Char) : trim (trim text) = trim text := by
  have hFront : (trim text).dropWhile isBlank = trim text :=
    trimStart_eq_self fun c hHead => isBlank_head?_trim hHead
  rw [trim_eq_rdropWhile (trim text), hFront, trim_eq_rdropWhile, List.rdropWhile_idempotent]

theorem trim_eq_self (hText : ∀ c ∈ text, isBlank c = false) : trim text = text := by
  have hFront : text.dropWhile isBlank = text :=
    trimStart_eq_self fun c hHead => hText c (List.mem_of_head? hHead)
  rw [trim_eq_rdropWhile, hFront, List.rdropWhile_eq_self_iff]
  intro hSome
  simp [hText _ (List.getLast_mem hSome)]

/-- Blanks around a text are trimmed, whatever the text is. -/
theorem trim_surrounded {before after : List Char} (hBefore : ∀ c ∈ before, isBlank c = true)
    (hAfter : ∀ c ∈ after, isBlank c = true) : trim (before ++ text ++ after) = trim text := by
  have hEnd (front : List Char) : trimEnd (front ++ after) = trimEnd front := by
    unfold trimEnd
    rw [List.reverse_append, List.dropWhile_append_of_pos (by simpa using hAfter)]
  have hStart : trimStart (before ++ text ++ after) = trimStart (text ++ after) := by
    unfold trimStart
    rw [List.append_assoc, List.dropWhile_append_of_pos hBefore]
  unfold trim
  rw [hStart]
  cases hText : trimStart text with
  | nil =>
      have hBlank : ∀ c ∈ text, isBlank c = true := List.dropWhile_eq_nil_iff.1 hText
      have hRest : trimStart (text ++ after) = trimStart after :=
        List.dropWhile_append_of_pos hBlank
      have hNothing : trimStart after = [] := List.dropWhile_eq_nil_iff.2 hAfter
      rw [hRest, hNothing]
  | cons c rest =>
      have hKept : trimStart (text ++ after) = trimStart text ++ after := by
        unfold trimStart at hText ⊢
        rw [List.dropWhile_append, hText]
        rfl
      rw [hKept, hEnd, hText]

theorem trimmed_trimmed (text : String) : trimmed (trimmed text) = trimmed text := by
  simp only [trimmed, String.toList_ofList, trim_trim]

end Trimming

end LawnCalibration.Text
