import LawnCalibration.Identifier
import Mathlib

/-
The written form of an identifier denotes it.
-/

set_option autoImplicit false

namespace LawnCalibration

open Text

namespace Text

private theorem hexDigitChar_mod (n : Nat) : hexDigitChar (n % 16) = hexDigitChar n := by
  simp only [hexDigitChar, Nat.mod_mod]

private theorem hexValue?_hexDigitChar (n : Nat) : hexValue? (hexDigitChar n) = some (n % 16) := by
  have hDigits : ∀ digit < 16, hexValue? (hexDigitChar digit) = some digit := by decide
  rw [← hexDigitChar_mod]
  exact hDigits _ (Nat.mod_lt n (by decide))

theorem hexadecimalValue?_fixedHexDigits (width n : Nat) :
    hexadecimalValue? (fixedHexDigits width n) = some (n % 16 ^ width) := by
  induction width generalizing n with
  | zero => simp [fixedHexDigits, hexadecimalValue?, Nat.mod_one]
  | succ width ih =>
      have hFront := ih (n / 16)
      unfold hexadecimalValue? at hFront ⊢
      rw [fixedHexDigits, List.foldlM_append, hFront]
      simp only [Option.bind_eq_bind, Option.bind_some, List.foldlM_cons, List.foldlM_nil,
        hexValue?_hexDigitChar, Option.map_some, Option.pure_def, Option.some.injEq]
      rw [Nat.pow_succ', Nat.mod_mul, Nat.add_comm]

private theorem mem_fixedHexDigits {width n : Nat} {c : Char}
    (hMember : c ∈ fixedHexDigits width n) :
    ∃ digit < 16, c = hexDigitChar digit := by
  induction width generalizing n with
  | zero => cases hMember
  | succ width ih =>
      rcases List.mem_append.1 hMember with hFront | hLast
      · exact ih hFront
      · exact ⟨n % 16, Nat.mod_lt n (by decide), by rw [hexDigitChar_mod, List.mem_singleton.1 hLast]⟩

end Text

namespace Identifier

variable {kind : Kind}

theorem ungroup?_group (lengths : List Nat) {digits : List Char} (hLengths : lengths ≠ [])
    (hDigits : digits.length = lengths.sum) : ungroup? lengths (group lengths digits) = some digits := by
  induction lengths generalizing digits with
  | nil => exact absurd rfl hLengths
  | cons length lengths ih =>
      cases lengths with
      | nil =>
          have hAll : digits.take length = digits := List.take_of_length_le (by simp [hDigits])
          simp only [group, ungroup?, hAll]
          exact if_pos (by simpa using hDigits)
      | cons next lengths =>
          have hTake : (digits.take length).length = length := by
            rw [List.length_take, hDigits, List.sum_cons]
            omega
          have hRest : (digits.drop length).length = (next :: lengths).sum := by
            rw [List.length_drop, hDigits, List.sum_cons]
            omega
          simp only [group, ungroup?]
          rw [List.drop_left' hTake, List.take_left' hTake]
          simp only [ih (List.cons_ne_nil next lengths) hRest, Option.map_some,
            List.take_append_drop]

/-- The written form stands in no braces and behind no prefix. -/
private theorem unwrap_group {digits : List Char} (hDigits : digits.length = 32)
    (hHex : ∀ c ∈ digits, ∃ digit < 16, c = hexDigitChar digit) :
    unwrap (group groupLengths digits) = (.bare, group groupLengths digits) := by
  obtain ⟨c, rest, rfl⟩ := List.exists_cons_of_length_pos (hDigits ▸ (by decide : 0 < 32))
  obtain ⟨digit, hDigit, rfl⟩ := hHex c List.mem_cons_self
  have hHead : ∀ digit < 16, hexDigitChar digit ≠ '\x7b' ∧ asciiLowered (hexDigitChar digit) ≠ 'u' := by
    decide
  obtain ⟨hBrace, hLetter⟩ := hHead digit hDigit
  simp [unwrap, group, groupLengths, urnMark, hBrace, hLetter]

theorem value?_text (id : Identifier kind) : value? id.text.toList = some id.bits.toNat := by
  have hLength : (fixedHexDigits 32 id.bits.toNat).length = 32 := fixedHexDigits_length _ _
  rw [text, String.toList_ofList, value?, unwrap_group hLength fun _ => mem_fixedHexDigits]
  simp only [ungroup?_group groupLengths (by decide) hLength,
    hexadecimalValue?_fixedHexDigits]
  exact congrArg some (Nat.mod_eq_of_lt id.bits.isLt)

theorem read_text (id : Identifier kind) : read id.text = .ok id := by
  rw [read, readChars, value?_text]
  simp

theorem text_injective : Function.Injective (text : Identifier kind → String) := by
  intro id other hText
  have hRead := read_text id
  rw [hText, read_text other] at hRead
  exact (Except.ok.inj hRead).symm

theorem text_inj {id other : Identifier kind} : id.text = other.text ↔ id = other :=
  text_injective.eq_iff

end Identifier
end LawnCalibration
