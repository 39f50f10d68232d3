import LawnCalibration.Proofs.Text.Bytes
import LawnCalibration.Text.LetterCase

/-
Lower case and the underscore.

No character but the underscore itself has an underscore in its lower case
form.  Of an ASCII character the form is one ASCII character that is no capital.
-/

set_option autoImplicit false

namespace LawnCalibration.Text

instance (c : Char) : Decidable (IsAscii c) :=
  inferInstanceAs (Decidable (c.toNat < 128))

/-- What holds of all codes of ASCII holds of all its characters. -/
theorem forall_ascii (Holds : Char → Prop) (hCodes : ∀ n < 128, Holds (Char.ofNat n)) {c : Char}
    (hAscii : IsAscii c) : Holds c := by
  have hCode := hCodes c.toNat hAscii
  rwa [Char.ofNat_toNat] at hCode

theorem lowered_ne_nil (c : Char) : lowered c ≠ [] := by
  unfold lowered
  split
  · split
    · exact List.cons_ne_nil _ _
    · exact List.cons_ne_nil _ _
  · split
    · exact List.cons_ne_nil _ _
    · dsimp only
      split
      · exact List.cons_ne_nil _ _
      · exact List.cons_ne_nil _ _

theorem isUpper_underscore : isUpper '_' = false := by decide

theorem lowered_underscore : lowered '_' = ['_'] := by decide

/-- Every run leads beyond the underscore. -/
private theorem underscore_lt_of_mem_lowerMapRuns :
    ∀ run ∈ LetterCase.lowerMapRuns, 95 < (run.1 : Int) + run.2.2.2 := by
  decide +kernel

private theorem ofNat_ne_underscore {n : Nat} (hBeyond : 95 < n) : Char.ofNat n ≠ '_' := by
  intro hSame
  by_cases hValid : n.isValidChar
  · have hCode : (Char.ofNat n).toNat = n := by
      rw [Char.ofNat, dif_pos hValid]
      rfl
    rw [hSame] at hCode
    exact Nat.ne_of_lt hBeyond hCode
  · rw [Char.ofNat, dif_neg hValid] at hSame
    cases hSame

theorem underscore_not_mem_lowered {c : Char} (hOther : c ≠ '_') : '_' ∉ lowered c := by
  by_cases hAscii : IsAscii c
  · exact forall_ascii (fun c => c ≠ '_' → '_' ∉ lowered c) (by decide) hAscii hOther
  · unfold lowered
    rw [if_neg (show ¬ c.toNat < 128 from hAscii)]
    split
    · decide
    · dsimp only
      split
      next run hFound =>
        have hHolds := List.find?_some hFound
        have hBeyond := underscore_lt_of_mem_lowerMapRuns run (List.mem_of_find?_eq_some hFound)
        have hFirst : run.1 ≤ c.toNat := by
          simp only [runHolds, Bool.and_eq_true, decide_eq_true_eq] at hHolds
          exact hHolds.1.1
        have hForm : Char.ofNat (c.toNat + run.2.2.2).toNat ≠ '_' := ofNat_ne_underscore (by omega)
        exact fun hMember => hForm (List.mem_singleton.1 hMember).symm
      next => exact fun hMember => hOther (List.mem_singleton.1 hMember).symm

theorem lowered_of_isAscii {c : Char} (hAscii : IsAscii c) : lowered c = [asciiLowered c] :=
  forall_ascii (fun c => lowered c = [asciiLowered c]) (by decide) hAscii

theorem isAscii_asciiLowered {c : Char} (hAscii : IsAscii c) : IsAscii (asciiLowered c) :=
  forall_ascii (fun c => IsAscii (asciiLowered c)) (by decide) hAscii

theorem not_isUpper_asciiLowered {c : Char} (hAscii : IsAscii c) :
    isUpper (asciiLowered c) = false :=
  forall_ascii (fun c => isUpper (asciiLowered c) = false) (by decide) hAscii

theorem asciiLowered_of_not_isUpper {c : Char} (hAscii : IsAscii c) (hSmall : isUpper c = false) :
    asciiLowered c = c :=
  forall_ascii (fun c => isUpper c = false → asciiLowered c = c) (by decide) hAscii hSmall

theorem isLetter_asciiLowered {c : Char} (hAscii : IsAscii c) :
    ((asciiLowered c).isAlpha || asciiLowered c == '_') = (c.isAlpha || c == '_') :=
  forall_ascii (fun c => ((asciiLowered c).isAlpha || asciiLowered c == '_') =
    (c.isAlpha || c == '_')) (by decide) hAscii

theorem isWordChar_asciiLowered {c : Char} (hAscii : IsAscii c) :
    ((asciiLowered c).isAlphanum || asciiLowered c == '_') = (c.isAlphanum || c == '_') :=
  forall_ascii (fun c => ((asciiLowered c).isAlphanum || asciiLowered c == '_') =
    (c.isAlphanum || c == '_')) (by decide) hAscii

end LawnCalibration.Text
