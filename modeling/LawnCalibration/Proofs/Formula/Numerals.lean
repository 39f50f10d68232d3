import LawnCalibration.Proofs.Formula.Tokens

/-
Numerals are read as the grammar spells them.

The reader of numerals takes the longest spelling at the front of a text.  It
refuses a mantissa with a broken exponent, which the grammar would cut before
the exponent mark; nothing that can follow a numeral starts with that mark.
-/

set_option autoImplicit false

namespace LawnCalibration.Formula.Grammar

open Text
open Decimal (scan scanMantissa scanSign)

theorem IsDigits.append {digits more : List Char} (hDigits : IsDigits digits)
    (hMore : ∀ c ∈ more, c.isDigit = true) : IsDigits (digits ++ more) := by
  refine ⟨fun hEmpty => hDigits.1 (List.append_eq_nil_iff.1 hEmpty).1, ?_⟩
  intro c hMember
  rcases List.mem_append.1 hMember with hMember | hMember
  · exact hDigits.2 c hMember
  · exact hMore c hMember

theorem IsDigits.head {digits : List Char} (hDigits : IsDigits digits) :
    ∃ first others, digits = first :: others ∧ first.isDigit = true := by
  cases digits with
  | nil => exact absurd rfl hDigits.1
  | cons first others => exact ⟨first, others, rfl, hDigits.2 first (by simp)⟩

private theorem isDigits_takeWhile (text : List Char) (hTaken : text.takeWhile Char.isDigit ≠ []) :
    IsDigits (text.takeWhile Char.isDigit) :=
  ⟨hTaken, forall_mem_takeWhile⟩

theorem IsExponentMark.not_isDigit {mark : Char} (hMark : IsExponentMark mark) :
    mark.isDigit = false := by
  rcases hMark with rfl | rfl <;> decide

theorem IsExponentMark.ne_point {mark : Char} (hMark : IsExponentMark mark) : mark ≠ '.' := by
  rcases hMark with rfl | rfl <;> decide

private theorem takeWhile_isDigit_point (tail : List Char) :
    ('.' :: tail).takeWhile Char.isDigit = [] :=
  List.takeWhile_cons_of_neg (by decide)

private theorem dropWhile_isDigit_point (tail : List Char) :
    ('.' :: tail).dropWhile Char.isDigit = '.' :: tail :=
  List.dropWhile_cons_of_neg (by decide)

/-- A mantissa ends where no digit follows, and no point if it has none. -/
private theorem scanMantissa_append {whole fraction mantissa rest : List Char}
    (hMantissa : IsMantissa whole fraction mantissa)
    (hDigit : ∀ c, rest.head? = some c → c.isDigit = false)
    (hPoint : mantissa = whole → rest.head? ≠ some '.') :
    scanMantissa (mantissa ++ rest) = some (whole, fraction, rest) := by
  unfold scanMantissa
  cases hMantissa with
  | whole hDigits =>
      obtain ⟨first, others, rfl, -⟩ := hDigits.head
      rw [takeWhile_run hDigits.2 hDigit, dropWhile_run hDigits.2 hDigit]
      cases rest with
      | nil => rfl
      | cons c rest =>
          have hDifferent : c ≠ '.' := by simpa using hPoint rfl
          split <;> simp_all
  | @pointed digits fraction hDigits hFraction =>
      obtain ⟨first, others, rfl, -⟩ := hDigits.head
      rw [List.append_assoc, takeWhile_run hDigits.2 (by simp),
        dropWhile_run hDigits.2 (by simp)]
      simp only [List.cons_append, takeWhile_run hFraction hDigit, dropWhile_run hFraction hDigit]
  | @fraction digits hDigits =>
      obtain ⟨first, others, rfl, -⟩ := hDigits.head
      rw [List.cons_append, takeWhile_isDigit_point, dropWhile_isDigit_point]
      simp only [takeWhile_run hDigits.2 hDigit, dropWhile_run hDigits.2 hDigit]

private theorem scanMantissa_sound {text whole fraction rest : List Char}
    (hScan : scanMantissa text = some (whole, fraction, rest)) :
    ∃ mantissa, text = mantissa ++ rest ∧ IsMantissa whole fraction mantissa := by
  have hSplit := List.takeWhile_append_dropWhile (p := Char.isDigit) (l := text)
  have hDigits := isDigits_takeWhile text
  unfold scanMantissa at hScan
  split at hScan
  · rename_i tail hTake hTail
    have hTailSplit := List.takeWhile_append_dropWhile (p := Char.isDigit) (l := tail)
    have hTailDigits := isDigits_takeWhile tail
    split at hScan
    · cases hScan
    · rename_i fraction hTaken
      cases hScan
      refine ⟨'.' :: tail.takeWhile Char.isDigit, ?_, .fraction (hTailDigits hTaken)⟩
      rw [← hSplit, hTake, hTail, List.nil_append, List.cons_append, hTailSplit]
  · cases hScan
  · rename_i tail hTail hTaken
    have hTailSplit := List.takeWhile_append_dropWhile (p := Char.isDigit) (l := tail)
    cases hScan
    have hFraction : ∀ c ∈ tail.takeWhile Char.isDigit, c.isDigit = true := forall_mem_takeWhile
    refine ⟨_, ?_, .pointed (hDigits hTaken) hFraction⟩
    rw [List.append_assoc, List.cons_append, hTailSplit, ← hTail, hSplit]
  · rename_i hTaken _ _
    cases hScan
    exact ⟨_, hSplit.symm, .whole (hDigits hTaken)⟩

/-- A scan reaches at least as far as any mantissa at the front of the text. -/
private theorem scanMantissa_reaches {whole fraction mantissa : List Char} (rest : List Char)
    (hMantissa : IsMantissa whole fraction mantissa) :
    ∃ whole' fraction' rest', scanMantissa (mantissa ++ rest) = some (whole', fraction', rest') ∧
      rest'.length ≤ rest.length := by
  have hShorter : ∀ text : List Char, (text.dropWhile Char.isDigit).length ≤ text.length :=
    fun text => (List.dropWhile_suffix _).length_le
  cases hMantissa with
  | whole hDigits =>
      obtain ⟨first, others, rfl, -⟩ := hDigits.head
      have hLength := hShorter rest
      unfold scanMantissa
      rw [List.takeWhile_append_of_pos hDigits.2, List.dropWhile_append_of_pos hDigits.2]
      cases hRest : rest.dropWhile Char.isDigit with
      | nil => exact ⟨_, _, _, rfl, Nat.zero_le _⟩
      | cons c after =>
          rw [hRest, List.length_cons] at hLength
          by_cases hPoint : c = '.'
          · subst hPoint
            have hAfter := hShorter after
            exact ⟨_, _, _, rfl, by omega⟩
          · refine ⟨first :: others ++ rest.takeWhile Char.isDigit, [], c :: after, ?_, hLength⟩
            split <;> simp_all
  | @pointed digits fraction hDigits hFraction =>
      obtain ⟨first, others, rfl, -⟩ := hDigits.head
      refine ⟨first :: others, (fraction ++ rest).takeWhile Char.isDigit,
        (fraction ++ rest).dropWhile Char.isDigit, ?_, ?_⟩
      · unfold scanMantissa
        rw [List.append_assoc, takeWhile_run hDigits.2 (by simp), dropWhile_run hDigits.2 (by simp)]
        rfl
      · rw [List.dropWhile_append_of_pos hFraction]
        exact hShorter rest
  | @fraction digits hDigits =>
      obtain ⟨first, others, rfl, hFirst⟩ := hDigits.head
      refine ⟨[], (first :: others ++ rest).takeWhile Char.isDigit,
        (first :: others ++ rest).dropWhile Char.isDigit, ?_, ?_⟩
      · unfold scanMantissa
        rw [List.cons_append, takeWhile_isDigit_point, dropWhile_isDigit_point]
        simp only [List.cons_append, List.takeWhile_cons_of_pos hFirst]
      · rw [List.dropWhile_append_of_pos hDigits.2]
        exact hShorter rest

theorem scanSign_cons {c : Char} (tail : List Char) (hPlus : c ≠ '+') (hMinus : c ≠ '-') :
    scanSign (c :: tail) = (false, c :: tail) := by
  unfold scanSign
  split
  · rename_i hText
    exact absurd (List.cons.inj hText).1 hPlus
  · rename_i hText
    exact absurd (List.cons.inj hText).1 hMinus
  · rfl

private theorem scanSign_of_isDigits {digits : List Char} (rest : List Char)
    (hDigits : IsDigits digits) :
    scanSign (digits ++ rest) = (false, digits ++ rest) := by
  obtain ⟨first, others, rfl, hFirst⟩ := hDigits.head
  refine scanSign_cons (others ++ rest) ?_ ?_
  · rintro rfl
    cases hFirst
  · rintro rfl
    cases hFirst

/-- Behind a mantissa and an exponent mark, a sign and digits complete the exponent. -/
private theorem scan_exponent {text whole fraction tail digits rest : List Char} {mark : Char}
    (negative : Bool) (hMantissa : scanMantissa text = some (whole, fraction, mark :: tail))
    (hMark : IsExponentMark mark) (hSign : scanSign tail = (negative, digits ++ rest))
    (hDigits : IsDigits digits) (hEnd : ∀ c, rest.head? = some c → c.isDigit = false) :
    scan text = .found
      { whole, fraction, exponent := if negative then -(decimalValue digits : Int)
          else decimalValue digits } rest := by
  obtain ⟨first, others, rfl, -⟩ := hDigits.head
  have hTest : mark = 'e' ∨ mark = 'E' := hMark
  unfold scan
  rw [hMantissa]
  simp only [if_pos hTest, hSign, takeWhile_run hDigits.2 hEnd, dropWhile_run hDigits.2 hEnd]

/-! ### Longest numerals -/

theorem IsMantissa.snoc {whole fraction mantissa : List Char} {c : Char}
    (hMantissa : IsMantissa whole fraction mantissa) (hDigit : c.isDigit = true) :
    ∃ whole' fraction', IsMantissa whole' fraction' (mantissa ++ [c]) := by
  have hLast : ∀ d ∈ [c], d.isDigit = true := by simpa using hDigit
  cases hMantissa with
  | whole hDigits => exact ⟨_, _, .whole (hDigits.append hLast)⟩
  | @pointed digits fraction hDigits hFraction =>
      refine ⟨whole, fraction ++ [c], ?_⟩
      rw [List.append_assoc, List.cons_append]
      refine .pointed hDigits ?_
      intro d hMember
      rcases List.mem_append.1 hMember with hMember | hMember
      · exact hFraction d hMember
      · exact hLast d hMember
  | fraction hDigits => exact ⟨_, _, .fraction (hDigits.append hLast)⟩

theorem IsExponent.snoc {power : Int} {exponent : List Char} {c : Char}
    (hExponent : IsExponent power exponent) (hPresent : exponent ≠ []) (hDigit : c.isDigit = true) :
    ∃ power', IsExponent power' (exponent ++ [c]) := by
  have hLast : ∀ d ∈ [c], d.isDigit = true := by simpa using hDigit
  cases hExponent with
  | absent => exact absurd rfl hPresent
  | unsigned hMark hDigits => exact ⟨_, .unsigned hMark (hDigits.append hLast)⟩
  | plus hMark hDigits => exact ⟨_, .plus hMark (hDigits.append hLast)⟩
  | minus hMark hDigits => exact ⟨_, .minus hMark (hDigits.append hLast)⟩

/-- A digit prolongs every numeral. -/
theorem IsNumeral.snoc {numeral : Decimal} {token : List Char} {c : Char}
    (hNumeral : IsNumeral numeral token) (hDigit : c.isDigit = true) :
    SpellsNumeral (token ++ [c]) := by
  obtain ⟨mantissa, exponent, rfl, hMantissa, hExponent⟩ := hNumeral
  rw [List.append_assoc]
  by_cases hPresent : exponent = []
  · subst hPresent
    obtain ⟨whole, fraction, hLonger⟩ := hMantissa.snoc hDigit
    exact ⟨⟨whole, fraction, 0⟩, mantissa ++ [c], [], by simp, hLonger, .absent⟩
  · obtain ⟨power, hLonger⟩ := hExponent.snoc hPresent hDigit
    exact ⟨⟨numeral.whole, numeral.fraction, power⟩, mantissa, exponent ++ [c], rfl, hMantissa,
      hLonger⟩

theorem Longest.not_isDigit {text token rest : List Char} {numeral : Decimal}
    (hToken : Longest SpellsNumeral text token rest) (hNumeral : IsNumeral numeral token) :
    ∀ c, rest.head? = some c → c.isDigit = false := by
  intro c hHead
  by_contra hDigit
  rw [Bool.not_eq_false] at hDigit
  obtain ⟨tail, rfl⟩ := List.head?_eq_some_iff.1 hHead
  have hLonger := hToken.2.2 (token ++ [c]) tail (by simp [hToken.1]) (hNumeral.snoc hDigit)
  simp only [List.length_append, List.length_singleton] at hLonger
  omega

/-- A numeral of digits alone would take a point that follows it. -/
theorem Longest.not_point {text token rest : List Char} (numeral : Decimal)
    (hToken : Longest SpellsNumeral text token rest)
    (hWhole : IsMantissa numeral.whole numeral.fraction token) (hEq : token = numeral.whole) :
    rest.head? ≠ some '.' := by
  intro hHead
  obtain ⟨tail, rfl⟩ := List.head?_eq_some_iff.1 hHead
  have hDigits : IsDigits token := by
    generalize numeral.whole = whole at hWhole hEq
    generalize numeral.fraction = fraction at hWhole
    cases hWhole with
    | whole hDigits => exact hDigits
    | pointed _ _ => simp at hEq
    | fraction _ => cases hEq
  have hLonger := hToken.2.2 (token ++ ['.']) tail (by simp [hToken.1])
    ⟨⟨token, [], 0⟩, token ++ ['.'], [], by simp, .pointed hDigits (by simp), .absent⟩
  simp only [List.length_append, List.length_singleton] at hLonger
  omega

/-- The longest numeral is the one that is scanned, unless an exponent mark breaks off behind it. -/
theorem scan_of_longest {text token rest : List Char} {numeral : Decimal}
    (hToken : Longest SpellsNumeral text token rest) (hNumeral : IsNumeral numeral token)
    (hMark : ∀ c, rest.head? = some c → ¬ IsExponentMark c) : scan text = .found numeral rest := by
  have hDigit := hToken.not_isDigit hNumeral
  have hText := hToken.1
  obtain ⟨mantissa, exponent, rfl, hMantissa, hExponent⟩ := hNumeral
  obtain ⟨whole, fraction, power⟩ := numeral
  dsimp only at hMantissa hExponent
  have hBehind : ∀ mark tail, IsExponentMark mark → text = mantissa ++ mark :: tail →
      scanMantissa text = some (whole, fraction, mark :: tail) := by
    rintro mark tail hMark rfl
    exact scanMantissa_append hMantissa (by simpa using hMark.not_isDigit)
      (fun _ => by simpa using hMark.ne_point)
  cases hExponent with
  | absent =>
      rw [List.append_nil] at hToken hText
      have hScan := scanMantissa_append hMantissa hDigit
        (hToken.not_point ⟨whole, fraction, 0⟩ hMantissa)
      rw [← hText] at hScan
      unfold scan
      rw [hScan]
      cases rest with
      | nil => rfl
      | cons c rest =>
          have hOther : ¬ (c = 'e' ∨ c = 'E') := hMark c rfl
          simp only [if_neg hOther]
  | @unsigned mark digits hMark hDigits =>
      have hScan := hBehind mark (digits ++ rest) hMark (by simp [hText])
      rw [scan_exponent false hScan hMark (scanSign_of_isDigits rest hDigits) hDigits hDigit]
      rfl
  | @plus mark digits hMark hDigits =>
      have hScan := hBehind mark ('+' :: (digits ++ rest)) hMark (by simp [hText])
      rw [scan_exponent false hScan hMark rfl hDigits hDigit]
      rfl
  | @minus mark digits hMark hDigits =>
      have hScan := hBehind mark ('-' :: (digits ++ rest)) hMark (by simp [hText])
      rw [scan_exponent true hScan hMark rfl hDigits hDigit]
      rfl

theorem IsMantissa.forall_mem {whole fraction mantissa : List Char}
    (hMantissa : IsMantissa whole fraction mantissa) :
    ∀ c ∈ mantissa, c.isDigit = true ∨ c = '.' := by
  intro c hMember
  cases hMantissa with
  | whole hDigits => exact .inl (hDigits.2 c hMember)
  | pointed hDigits hFraction =>
      rcases List.mem_append.1 hMember with hMember | hMember
      · exact .inl (hDigits.2 c hMember)
      · rcases List.mem_cons.1 hMember with rfl | hMember
        · exact .inr rfl
        · exact .inl (hFraction c hMember)
  | fraction hDigits =>
      rcases List.mem_cons.1 hMember with rfl | hMember
      · exact .inr rfl
      · exact .inl (hDigits.2 c hMember)

/-- What stands behind an exponent mark is an optional sign and digits. -/
theorem IsExponent.scanSign_tail {power : Int} {mark : Char} {tail : List Char}
    (hExponent : IsExponent power (mark :: tail)) (after : List Char) :
    IsExponentMark mark ∧
      ∃ digits, (scanSign (tail ++ after)).2 = digits ++ after ∧ IsDigits digits := by
  cases hExponent with
  | unsigned hMark hDigits =>
      exact ⟨hMark, _, by rw [scanSign_of_isDigits after hDigits], hDigits⟩
  | plus hMark hDigits => exact ⟨hMark, _, rfl, hDigits⟩
  | minus hMark hDigits => exact ⟨hMark, _, rfl, hDigits⟩

private theorem scan_found_behind {text whole fraction behind rest : List Char} {numeral : Decimal}
    (hFound : scanMantissa text = some (whole, fraction, behind))
    (hScan : scan text = .found numeral rest) : rest.length ≤ behind.length := by
  unfold scan at hScan
  rw [hFound] at hScan
  dsimp only at hScan
  split at hScan
  · rename_i mark tail
    split at hScan
    · split at hScan
      · cases hScan
      · cases hScan
        have hDrop := (List.dropWhile_suffix (l := (scanSign tail).2) Char.isDigit).length_le
        have hSign := (Decimal.scanSign_suffix tail).length_le
        simp only [List.length_cons]
        omega
    · cases hScan
      exact Nat.le_refl _
  · cases hScan
    exact Nat.le_refl _

/-- A scanned mantissa does not reach over an exponent mark, for it holds digits and a point only. -/
private theorem behind_eq_of_mark {mark : Char} {front tail whole fraction behind : List Char}
    (hMark : IsExponentMark mark)
    (hFound : scanMantissa (front ++ mark :: tail) = some (whole, fraction, behind))
    (hReach : behind.length ≤ (mark :: tail).length) : behind = mark :: tail := by
  obtain ⟨found, hText, hScanned⟩ := scanMantissa_sound hFound
  rcases List.append_eq_append_iff.1 hText with ⟨more, hLonger, hRest⟩ | ⟨more, -, hRest⟩
  · cases more with
    | nil => exact hRest.symm
    | cons c more =>
        have hHead := (List.cons.inj hRest).1
        have hMember : mark ∈ found := by simp [hLonger, hHead]
        rcases hScanned.forall_mem mark hMember with hDigit | hPoint
        · rw [hMark.not_isDigit] at hDigit
          cases hDigit
        · exact absurd hPoint hMark.ne_point
  · have hLengths := congrArg List.length hRest
    rw [List.length_append] at hLengths
    have hEmpty : more = [] := List.eq_nil_of_length_eq_zero (by omega)
    rw [hRest, hEmpty, List.nil_append]

/-- A scan reaches at least as far as any numeral at the front of the text. -/
theorem scan_found_reaches {other after rest : List Char} {numeral : Decimal}
    (hScan : scan (other ++ after) = .found numeral rest) (hOther : SpellsNumeral other) :
    rest.length ≤ after.length := by
  obtain ⟨spelled, mantissa, exponent, rfl, hMantissa, hExponent⟩ := hOther
  obtain ⟨whole, fraction, behind, hFound, hReach⟩ :=
    scanMantissa_reaches (exponent ++ after) hMantissa
  rw [List.append_assoc] at hScan
  cases exponent with
  | nil => exact (scan_found_behind hFound hScan).trans hReach
  | cons mark tail =>
      obtain ⟨hMark, digits, hSign, hDigits⟩ := hExponent.scanSign_tail after
      have hBehind : behind = mark :: (tail ++ after) := behind_eq_of_mark hMark hFound hReach
      have hTest : mark = 'e' ∨ mark = 'E' := hMark
      unfold scan at hScan
      rw [hFound, hBehind] at hScan
      simp only [if_pos hTest, hSign] at hScan
      split at hScan
      · cases hScan
      · cases hScan
        rw [List.dropWhile_append_of_pos hDigits.2]
        exact (List.dropWhile_suffix _).length_le

theorem scan_found_isNumeral {text rest : List Char} {numeral : Decimal}
    (hScan : scan text = .found numeral rest) :
    ∃ token, text = token ++ rest ∧ IsNumeral numeral token := by
  unfold scan at hScan
  split at hScan
  · cases hScan
  · rename_i whole fraction behind hFound
    obtain ⟨mantissa, rfl, hMantissa⟩ := scanMantissa_sound hFound
    split at hScan
    · rename_i mark tail
      split at hScan
      · rename_i hMark
        have hSplit := List.takeWhile_append_dropWhile (p := Char.isDigit) (l := (scanSign tail).2)
        have hTaken := isDigits_takeWhile (scanSign tail).2
        dsimp only at hScan
        split at hScan
        · cases hScan
        · rename_i hPresent
          cases hScan
          have hDigits := hTaken hPresent
          generalize (scanSign tail).2.takeWhile Char.isDigit = digits at hSplit hDigits
          generalize hRest : (scanSign tail).2.dropWhile Char.isDigit = rest at hSplit
          unfold scanSign at hSplit hRest ⊢
          split at hSplit
          · exact ⟨mantissa ++ mark :: '+' :: digits, by simp [hSplit], mantissa, _, rfl,
              hMantissa, .plus hMark hDigits⟩
          · exact ⟨mantissa ++ mark :: '-' :: digits, by simp [hSplit], mantissa, _, rfl,
              hMantissa, .minus hMark hDigits⟩
          · exact ⟨mantissa ++ mark :: digits, by simp [hSplit], mantissa, _, rfl,
              hMantissa, .unsigned hMark hDigits⟩
      · cases hScan
        exact ⟨mantissa, rfl, mantissa, [], by simp, hMantissa, .absent⟩
    · cases hScan
      exact ⟨mantissa, rfl, mantissa, [], by simp, hMantissa, .absent⟩

theorem longest_of_scan {text rest : List Char} {numeral : Decimal}
    (hScan : scan text = .found numeral rest) :
    ∃ token, Longest SpellsNumeral text token rest ∧ IsNumeral numeral token := by
  obtain ⟨token, rfl, hNumeral⟩ := scan_found_isNumeral hScan
  refine ⟨token, ⟨rfl, ⟨numeral, hNumeral⟩, ?_⟩, hNumeral⟩
  intro other after hText hOther
  rw [hText] at hScan
  have hReach := scan_found_reaches hScan hOther
  have hLengths := congrArg List.length hText
  simp only [List.length_append] at hLengths
  omega

theorem scan_eq_absent {c : Char} {tail : List Char} (hDigit : c.isDigit = false)
    (hPoint : c ≠ '.') : scan (c :: tail) = .absent := by
  have hMantissa : scanMantissa (c :: tail) = none := by
    unfold scanMantissa
    rw [List.takeWhile_cons_of_neg (by simp [hDigit]), List.dropWhile_cons_of_neg (by simp [hDigit])]
    split <;> simp_all
  unfold scan
  rw [hMantissa]

/-- A numeral starts with a digit or a point. -/
theorem IsNumeral.head {numeral : Decimal} {token : List Char} (hNumeral : IsNumeral numeral token) :
    ∃ c tail, token = c :: tail ∧ (c.isDigit = true ∨ c = '.') := by
  obtain ⟨mantissa, exponent, rfl, hMantissa, -⟩ := hNumeral
  cases mantissa with
  | nil =>
      generalize numeral.whole = whole at hMantissa
      generalize numeral.fraction = fraction at hMantissa
      generalize hEmpty : ([] : List Char) = mantissa at hMantissa
      cases hMantissa with
      | whole hDigits => exact absurd hEmpty.symm hDigits.1
      | pointed hDigits _ => simp at hEmpty
      | fraction _ => cases hEmpty
  | cons c tail => exact ⟨c, tail ++ exponent, rfl, hMantissa.forall_mem c (by simp)⟩

end LawnCalibration.Formula.Grammar
