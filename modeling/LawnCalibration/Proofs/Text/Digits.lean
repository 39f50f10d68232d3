import LawnCalibration.Text.Digits
import Mathlib.Data.List.Basic
import Mathlib.Data.List.Induction
import Mathlib.Data.String.Basic

/-
Decimal digits, in fields of one width and without leading zeros.

Both denote the number they were written for.  Two fields of one width stand in
the order of their numbers, whatever follows them.
-/

set_option autoImplicit false

namespace LawnCalibration.Text

private theorem digitChar_mod (n : Nat) : digitChar (n % 10) = digitChar n := by
  simp only [digitChar, Nat.mod_mod]

theorem isDigit_digitChar (n : Nat) : (digitChar n).isDigit = true := by
  have hDigits : ∀ digit < 10, (digitChar digit).isDigit = true := by decide
  rw [← digitChar_mod]
  exact hDigits _ (Nat.mod_lt n (by decide))

theorem digitValue_digitChar (n : Nat) : digitValue (digitChar n) = n % 10 := by
  have hDigits : ∀ digit < 10, digitValue (digitChar digit) = digit := by decide
  rw [← digitChar_mod]
  exact hDigits _ (Nat.mod_lt n (by decide))

private theorem digitChar_lt_iff {m n : Nat} : digitChar m < digitChar n ↔ m % 10 < n % 10 := by
  have hDigits : ∀ first < 10, ∀ second < 10,
      (digitChar first < digitChar second ↔ first < second) := by decide
  rw [← digitChar_mod m, ← digitChar_mod n]
  exact hDigits _ (Nat.mod_lt m (by decide)) _ (Nat.mod_lt n (by decide))

private theorem digitValue_lt {c : Char} (hDigit : c.isDigit = true) : digitValue c < 10 := by
  have hBounds := Bool.and_eq_true_iff.1 hDigit
  have hLast : c.toNat ≤ 57 := of_decide_eq_true hBounds.2
  unfold digitValue
  omega

private theorem decimalValue_concat (front : List Char) (c : Char) :
    decimalValue (front ++ [c]) = 10 * decimalValue front + digitValue c := by
  unfold decimalValue
  rw [List.foldl_append, List.foldl_cons, List.foldl_nil]

theorem decimalValue_append (front digits : List Char) :
    decimalValue (front ++ digits) =
      decimalValue front * 10 ^ digits.length + decimalValue digits := by
  induction digits using List.reverseRecOn with
  | nil => rw [List.append_nil, List.length_nil, Nat.pow_zero, Nat.mul_one]; rfl
  | append_singleton digits c ih =>
      rw [← List.append_assoc, decimalValue_concat, decimalValue_concat, ih, List.length_append,
        List.length_singleton, Nat.pow_succ, ← Nat.mul_assoc]
      omega

theorem decimalValue_lt {digits : List Char} (hDigits : ∀ c ∈ digits, c.isDigit = true) :
    decimalValue digits < 10 ^ digits.length := by
  induction digits using List.reverseRecOn with
  | nil => exact Nat.one_pos
  | append_singleton digits c ih =>
      obtain ⟨hFront, hLast⟩ := List.forall_mem_append.1 hDigits
      have hValue := ih hFront
      have hDigit := digitValue_lt (hLast c (List.mem_singleton.2 rfl))
      rw [decimalValue_concat, List.length_append, List.length_singleton, Nat.pow_succ]
      omega

theorem isDigit_of_mem_fixedDigits {width n : Nat} {c : Char} (hMember : c ∈ fixedDigits width n) :
    c.isDigit = true := by
  induction width generalizing n with
  | zero => cases hMember
  | succ width ih =>
      rcases List.mem_append.1 hMember with hFront | hLast
      · exact ih hFront
      · exact List.mem_singleton.1 hLast ▸ isDigit_digitChar n

theorem fixedDigits_ne_nil {width : Nat} (hWidth : 0 < width) (n : Nat) :
    fixedDigits width n ≠ [] := by
  apply List.ne_nil_of_length_pos
  rw [fixedDigits_length]
  exact hWidth

theorem decimalValue_fixedDigits (width n : Nat) :
    decimalValue (fixedDigits width n) = n % 10 ^ width := by
  induction width generalizing n with
  | zero => simp [fixedDigits, decimalValue, Nat.mod_one]
  | succ width ih =>
      have hFront := ih (n / 10)
      unfold decimalValue at hFront ⊢
      rw [fixedDigits, List.foldl_append, hFront, List.foldl_cons, List.foldl_nil,
        digitValue_digitChar, Nat.pow_succ', Nat.mod_mul, Nat.add_comm]

/-- A number that its field can hold is denoted in full. -/
theorem decimalValue_fixedDigits_of_lt {width n : Nat} (hBound : n < 10 ^ width) :
    decimalValue (fixedDigits width n) = n := by
  rw [decimalValue_fixedDigits, Nat.mod_eq_of_lt hBound]

theorem fixedDigits_inj {width m n : Nat} (hFirst : m < 10 ^ width) (hSecond : n < 10 ^ width) :
    fixedDigits width m = fixedDigits width n ↔ m = n := by
  refine ⟨fun hSame => ?_, fun hSame => hSame ▸ rfl⟩
  rw [← decimalValue_fixedDigits_of_lt hFirst, hSame, decimalValue_fixedDigits_of_lt hSecond]

theorem isDigit_of_mem_decimalDigits {n : Nat} {c : Char} (hMember : c ∈ decimalDigits n) :
    c.isDigit = true :=
  Nat.isDigit_of_mem_toDigits (by decide) (by decide) hMember

theorem decimalDigits_ne_nil (n : Nat) : decimalDigits n ≠ [] :=
  Nat.toDigits_ne_nil

theorem decimalValue_decimalDigits (n : Nat) : decimalValue (decimalDigits n) = n := by
  have hFold : Nat.ofDigitChars 10 (decimalDigits n) 0 = decimalValue (decimalDigits n) :=
    Nat.ofDigitChars_eq_foldl
  rw [← hFold]
  exact Nat.ofDigitChars_ten_toDigits

/-- Texts with fronts of one length compare by their fronts first. -/
private theorem append_lt_append_iff {front other rest later : List Char}
    (hLength : front.length = other.length) :
    front ++ rest < other ++ later ↔ front < other ∨ (front = other ∧ rest < later) := by
  induction front generalizing other with
  | nil =>
      obtain rfl := List.eq_nil_of_length_eq_zero hLength.symm
      simp
  | cons c front ih =>
      obtain ⟨d, other, rfl⟩ := List.exists_cons_of_length_eq_add_one hLength.symm
      have hTail := ih (Nat.succ.inj hLength)
      simp only [List.cons_append, List.cons_lt_cons_iff, hTail, List.cons.injEq]
      tauto

theorem fixedDigits_lt_iff {width m n : Nat} (hFirst : m < 10 ^ width) (hSecond : n < 10 ^ width) :
    fixedDigits width m < fixedDigits width n ↔ m < n := by
  induction width generalizing m n with
  | zero => simp_all [fixedDigits]
  | succ width ih =>
      rw [Nat.pow_succ] at hFirst hSecond
      have hFirstFront : m / 10 < 10 ^ width := by omega
      have hSecondFront : n / 10 < 10 ^ width := by omega
      rw [fixedDigits, fixedDigits, append_lt_append_iff (by simp), ih hFirstFront hSecondFront,
        fixedDigits_inj hFirstFront hSecondFront, List.cons_lt_cons_iff, digitChar_lt_iff]
      simp only [List.not_lt_nil, and_false, or_false]
      omega

/-- Texts that start with fields of one width compare by the numbers first. -/
theorem fixedDigits_append_lt_iff {width m n : Nat} {rest later : List Char}
    (hFirst : m < 10 ^ width) (hSecond : n < 10 ^ width) :
    fixedDigits width m ++ rest < fixedDigits width n ++ later ↔
      m < n ∨ (m = n ∧ rest < later) := by
  rw [append_lt_append_iff (by simp), fixedDigits_lt_iff hFirst hSecond,
    fixedDigits_inj hFirst hSecond]

end LawnCalibration.Text
