import LawnCalibration.Text.Digits

/-
Decimal numerals and the binary64 number nearest to each.

A numeral keeps its digits as they were written.  Its value is rounded once, to
the nearest number and to the even one of two equally near, so a numeral above
the largest finite number is infinite and one below half the smallest is zero.
-/

set_option autoImplicit false

namespace LawnCalibration

structure Decimal where
  whole : List Char
  fraction : List Char
  exponent : Int
deriving DecidableEq, Repr

namespace Decimal

open Text

def digits (numeral : Decimal) : Nat :=
  decimalValue (numeral.whole ++ numeral.fraction)

/-- The power of ten that scales `digits` to the value. -/
def scale (numeral : Decimal) : Int :=
  numeral.exponent - numeral.fraction.length

def toFloat (numeral : Decimal) : Float :=
  Float.ofScientific numeral.digits (numeral.scale < 0) numeral.scale.natAbs

inductive Scan where
  /-- no mantissa starts here -/
  | absent
  /-- an exponent mark stands after the mantissa and no digit follows; the text is what was left -/
  | unfinished (remaining : List Char)
  | found (numeral : Decimal) (remaining : List Char)
deriving DecidableEq, Repr

/-- Digits with an optional point and further digits, or a point and digits. -/
def scanMantissa (text : List Char) : Option (List Char × List Char × List Char) :=
  match text.takeWhile Char.isDigit, text.dropWhile Char.isDigit with
  | [], '.' :: rest =>
      match rest.takeWhile Char.isDigit with
      | [] => none
      | fraction => some ([], fraction, rest.dropWhile Char.isDigit)
  | [], _ => none
  | whole, '.' :: rest =>
      some (whole, rest.takeWhile Char.isDigit, rest.dropWhile Char.isDigit)
  | whole, rest => some (whole, [], rest)

/-- A sign in front of exponent digits: whether it is a minus, and what follows. -/
def scanSign : List Char → Bool × List Char
  | '+' :: rest => (false, rest)
  | '-' :: rest => (true, rest)
  | rest => (false, rest)

/-- An unsigned numeral.  Once an exponent mark has been read, its digits are due. -/
def scan (text : List Char) : Scan :=
  match scanMantissa text with
  | none => .absent
  | some (whole, fraction, rest) =>
      match rest with
      | mark :: tail =>
          if mark = 'e' ∨ mark = 'E' then
            let signed := scanSign tail
            match signed.2.takeWhile Char.isDigit with
            | [] => .unfinished signed.2
            | digits =>
                let size : Int := decimalValue digits
                .found { whole, fraction, exponent := if signed.1 then -size else size }
                  (signed.2.dropWhile Char.isDigit)
          else .found { whole, fraction, exponent := 0 } rest
      | [] => .found { whole, fraction, exponent := 0 } []

theorem scanSign_suffix (text : List Char) : (scanSign text).2 <:+ text := by
  unfold scanSign
  split
  · exact List.suffix_cons _ _
  · exact List.suffix_cons _ _
  · exact List.suffix_refl _

private theorem dropWhile_shorter (p : Char → Bool) (text : List Char)
    (hTaken : text.takeWhile p ≠ []) : (text.dropWhile p).length < text.length := by
  have hSplit := congrArg List.length (List.takeWhile_append_dropWhile (p := p) (l := text))
  have hPositive : 0 < (text.takeWhile p).length := List.length_pos_iff.2 hTaken
  simp only [List.length_append] at hSplit
  omega

private theorem scanMantissa_leaves {text whole fraction rest : List Char}
    (hScan : scanMantissa text = some (whole, fraction, rest)) :
    rest <:+ text ∧ rest.length < text.length := by
  have hDrop := List.dropWhile_suffix (l := text) Char.isDigit
  unfold scanMantissa at hScan
  split at hScan
  · rename_i tail hTake hTail
    split at hScan
    · simp at hScan
    · simp only [Option.some.injEq, Prod.mk.injEq] at hScan
      obtain ⟨-, -, rfl⟩ := hScan
      rw [hTail] at hDrop
      have hInner := List.dropWhile_suffix (l := tail) Char.isDigit
      refine ⟨hInner.trans ((List.suffix_cons _ _).trans hDrop), ?_⟩
      have h1 := hInner.length_le
      have h2 := hDrop.length_le
      simp only [List.length_cons] at h2
      omega
  · simp at hScan
  · rename_i tail hTail _
    simp only [Option.some.injEq, Prod.mk.injEq] at hScan
    obtain ⟨-, -, rfl⟩ := hScan
    rw [hTail] at hDrop
    have hInner := List.dropWhile_suffix (l := tail) Char.isDigit
    refine ⟨hInner.trans ((List.suffix_cons _ _).trans hDrop), ?_⟩
    have h1 := hInner.length_le
    have h2 := hDrop.length_le
    simp only [List.length_cons] at h2
    omega
  · simp only [Option.some.injEq, Prod.mk.injEq] at hScan
    obtain ⟨-, -, rfl⟩ := hScan
    refine ⟨hDrop, dropWhile_shorter _ _ ?_⟩
    intro hEmpty
    simp_all

theorem scan_found_leaves {text rest : List Char} {numeral : Decimal}
    (hScan : scan text = .found numeral rest) : rest <:+ text ∧ rest.length < text.length := by
  unfold scan at hScan
  split at hScan
  · simp at hScan
  · rename_i whole fraction after hMantissa
    have hLeft := scanMantissa_leaves hMantissa
    split at hScan
    · rename_i mark tail
      split at hScan
      · dsimp only at hScan
        split at hScan
        · simp at hScan
        · simp only [Scan.found.injEq] at hScan
          obtain ⟨-, rfl⟩ := hScan
          have hSign := scanSign_suffix tail
          have hDrop := List.dropWhile_suffix (l := (scanSign tail).2) Char.isDigit
          have hAll := hDrop.trans (hSign.trans (List.suffix_cons mark tail))
          exact ⟨hAll.trans hLeft.1, Nat.lt_of_le_of_lt hAll.length_le hLeft.2⟩
      · simp only [Scan.found.injEq] at hScan
        obtain ⟨-, rfl⟩ := hScan
        exact hLeft
    · simp only [Scan.found.injEq] at hScan
      obtain ⟨-, rfl⟩ := hScan
      exact hLeft

theorem scan_unfinished_suffix {text rest : List Char} (hScan : scan text = .unfinished rest) :
    rest <:+ text := by
  unfold scan at hScan
  split at hScan
  · simp at hScan
  · rename_i whole fraction after hMantissa
    have hLeft := scanMantissa_leaves hMantissa
    split at hScan
    · rename_i mark tail
      split at hScan
      · dsimp only at hScan
        split at hScan
        · simp only [Scan.unfinished.injEq] at hScan
          subst hScan
          exact (scanSign_suffix tail).trans ((List.suffix_cons _ _).trans hLeft.1)
        · simp at hScan
      · simp at hScan
    · simp at hScan

end Decimal
end LawnCalibration
