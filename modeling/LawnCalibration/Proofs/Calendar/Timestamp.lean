import LawnCalibration.Calendar.Timestamp
import LawnCalibration.Proofs.Calendar.DayBounds
import LawnCalibration.Proofs.Text.Digits
import LawnCalibration.Proofs.Text.Span

/-
Instants and their storage form.

Within the years 0 to 9999 the storage form is read back as the instant it was
written for, leap seconds included, and the forms stand in the order of their
instants.  A year outside is written with a sign: such a form is never read
back, and it stands before every form without a sign.
-/

set_option autoImplicit false

namespace LawnCalibration.Calendar

open Text

/-- The years that are written with four digits and no sign. -/
def Date.HasFourDigits (date : Date) : Prop :=
  0 ≤ date.year ∧ date.year ≤ 9999

instance (date : Date) : Decidable date.HasFourDigits :=
  inferInstanceAs (Decidable (_ ∧ _))

namespace Instant

theorem clock_bounds (instant : Instant) :
    instant.hour < 24 ∧ instant.minute < 60 ∧ instant.clockSecond ≤ 60 ∧
      instant.fraction < nanosPerSecond := by
  have hSecond := instant.second_lt
  have hNano := instant.nano_lt
  have hLeap := instant.leap
  simp only [hour, minute, clockSecond, fraction, secondsPerDay, nanosPerSecond] at *
  omega

private theorem bounds_of_ofClock? {date : Date} {hour minute second nano : Nat} {instant : Instant}
    (hInstant : ofClock? date hour minute second nano = some instant) :
    hour < 24 ∧ minute < 60 ∧ second ≤ 60 ∧ nano < nanosPerSecond := by
  unfold ofClock? at hInstant
  split at hInstant
  · assumption
  · cases hInstant

/-- An instant is known from its day and what a clock shows. -/
theorem ofClock?_clock (instant : Instant) :
    ofClock? instant.date instant.hour instant.minute instant.clockSecond instant.fraction =
      some instant := by
  have hNano : instant.nano < 2000000000 := instant.nano_lt
  have hLeap : 1000000000 ≤ instant.nano → instant.second % 60 = 59 := instant.leap
  have hBounds := instant.clock_bounds
  unfold ofClock?
  rw [dif_pos hBounds]
  by_cases hSixty : instant.clockSecond = 60
  · rw [dif_pos hSixty]
    unfold clockSecond nanosPerSecond at hSixty
    refine congrArg some (Instant.ext rfl ?_ ?_)
    · dsimp only [hour, minute]
      omega
    · dsimp only [fraction, nanosPerSecond]
      omega
  · rw [dif_neg hSixty]
    unfold clockSecond nanosPerSecond at hSixty
    refine congrArg some (Instant.ext rfl ?_ ?_)
    · dsimp only [hour, minute, clockSecond, nanosPerSecond]
      omega
    · dsimp only [fraction, nanosPerSecond]
      omega

/-- On one day the clock shows what is earlier. -/
private theorem clock_lt_iff (a b : Instant) :
    (a.hour < b.hour ∨ (a.hour = b.hour ∧ (a.minute < b.minute ∨ (a.minute = b.minute ∧
        (a.clockSecond < b.clockSecond ∨
          (a.clockSecond = b.clockSecond ∧ a.fraction < b.fraction)))))) ↔
      a.second < b.second ∨ (a.second = b.second ∧ a.nano < b.nano) := by
  have hNanoA := a.nano_lt
  have hNanoB := b.nano_lt
  have hLeapA := a.leap
  have hLeapB := b.leap
  simp only [hour, minute, clockSecond, fraction, nanosPerSecond] at *
  omega

theorem ofLocal?_utc (instant : Instant) :
    ofLocal? instant ⟨0, by decide, by decide⟩ = some instant := by
  have hSecond := instant.second_lt
  simp only [secondsPerDay] at hSecond
  unfold ofLocal?
  rw [dif_neg (by simp), dif_neg (by simp; omega)]
  simp

end Instant

private theorem readDigits_fixedDigits {width n : Nat} (rest : List Char)
    (hBound : n < 10 ^ width) :
    readDigits width (fixedDigits width n ++ rest) = .ok (n, rest) := by
  have hTake : (fixedDigits width n ++ rest).take width = fixedDigits width n :=
    List.take_left' (fixedDigits_length width n)
  have hDrop : (fixedDigits width n ++ rest).drop width = rest :=
    List.drop_left' (fixedDigits_length width n)
  have hDigits : (fixedDigits width n).all Char.isDigit = true :=
    List.all_eq_true.2 fun _ hMember => isDigit_of_mem_fixedDigits hMember
  unfold readDigits
  rw [hTake, hDrop, if_pos ⟨fixedDigits_length width n, hDigits⟩,
    decimalValue_fixedDigits_of_lt hBound]

/-- A run of digits is a fraction, and only its first nine digits count. -/
theorem readFraction_run {digits rest : List Char} (hDigits : ∀ c ∈ digits, c.isDigit = true)
    (hSome : digits ≠ []) (hRest : ∀ c, rest.head? = some c → c.isDigit = false) :
    readFraction (digits ++ rest) =
      .ok (decimalValue (digits.take 9) * Nat.pow 10 (9 - (digits.take 9).length), rest) := by
  have hShort : ∀ d, (rest.take (9 - digits.length)).head? = some d → d.isDigit = false := by
    intro d hHead
    rw [List.head?_take] at hHead
    split at hHead
    · cases hHead
    · exact hRest d hHead
  have hTaken : ((digits ++ rest).take 9).takeWhile Char.isDigit = digits.take 9 := by
    rw [List.take_append]
    exact takeWhile_run (fun c hMember => hDigits c (List.mem_of_mem_take hMember)) hShort
  have hLeft : ((digits ++ rest).drop (digits.take 9).length).dropWhile Char.isDigit = rest := by
    rw [List.drop_append_of_le_length (List.length_take_le' 9 digits)]
    exact dropWhile_run (fun c hMember => hDigits c (List.mem_of_mem_drop hMember)) hRest
  obtain ⟨c, later, rfl⟩ := List.exists_cons_of_ne_nil hSome
  rw [List.cons_append] at hTaken hLeft ⊢
  simp only [readFraction, if_pos (hDigits c List.mem_cons_self), hTaken, hLeft]

/-- Digits short of the ninth count as if zeros followed them. -/
theorem readFraction_digits {digits rest : List Char}
    (hDigits : ∀ c ∈ digits, c.isDigit = true) (hSome : digits ≠ []) (hLength : digits.length ≤ 9)
    (hRest : ∀ c, rest.head? = some c → c.isDigit = false) :
    readFraction (digits ++ rest) =
      .ok (decimalValue digits * Nat.pow 10 (9 - digits.length), rest) := by
  rw [readFraction_run hDigits hSome hRest, List.take_of_length_le hLength]

private theorem readFraction_fixedDigits {n : Nat} {rest : List Char} (hBound : n < 10 ^ 9)
    (hRest : ∀ c, rest.head? = some c → c.isDigit = false) :
    readFraction (fixedDigits 9 n ++ rest) = .ok (n, rest) := by
  have hLength : (fixedDigits 9 n).length = 9 := fixedDigits_length 9 n
  have hWhole : Nat.pow 10 (9 - 9) = 1 := rfl
  rw [readFraction_digits (fun _ => isDigit_of_mem_fixedDigits)
    (fixedDigits_ne_nil (by decide) n) hLength.le hRest, hLength,
    decimalValue_fixedDigits_of_lt hBound, hWhole, Nat.mul_one]

theorem readSymbol_hyphen (rest : List Char) : readSymbol (· == '-') ('-' :: rest) = .ok rest := rfl

theorem readSymbol_colon (rest : List Char) : readSymbol (· == ':') (':' :: rest) = .ok rest := rfl

namespace Timestamp

/-- The storage form field by field. -/
theorem chars_eq {instant : Instant} (hYear : instant.date.HasFourDigits) :
    chars instant = fixedDigits 4 instant.date.year.toNat ++ '-' ::
      (fixedDigits 2 instant.date.month ++ '-' :: (fixedDigits 2 instant.date.day ++ 'T' ::
      (fixedDigits 2 instant.hour ++ ':' :: (fixedDigits 2 instant.minute ++ ':' ::
      (fixedDigits 2 instant.clockSecond ++ '.' :: (fixedDigits 9 instant.fraction ++ ['Z'])))))) := by
  have hNumber : yearChars instant.date.year = fixedDigits 4 instant.date.year.toNat := if_pos hYear
  simp only [chars, dateChars, clockChars, hNumber, List.append_assoc, List.cons_append]

/-- The form of a year outside the four digits starts with a sign. -/
private theorem chars_eq_sign {instant : Instant} (hYear : ¬ instant.date.HasFourDigits) :
    ∃ sign rest, (sign = '-' ∨ sign = '+') ∧ chars instant = sign :: rest := by
  obtain ⟨sign, digits, hSign, hNumber⟩ : ∃ sign digits, (sign = '-' ∨ sign = '+') ∧
      yearChars instant.date.year = sign :: digits := by
    refine ⟨_, _, ?_, if_neg hYear⟩
    split
    · exact .inl rfl
    · exact .inr rfl
  simp only [chars, dateChars, hNumber, List.cons_append]
  exact ⟨sign, _, hSign, rfl⟩

/-- The part before the offset, with any mark after the date and any fraction. -/
theorem readLocal_fields {date : Date} {hour minute second nano : Nat} {mark : Char}
    {fraction rest : List Char} {shown : Instant} (hYear : date.HasFourDigits)
    (hMark : isDateEnd mark = true)
    (hFraction : readOptionalFraction (fraction ++ rest) = .ok (nano, rest))
    (hShown : Instant.ofClock? date hour minute second nano = some shown) :
    readLocal (fixedDigits 4 date.year.toNat ++ '-' :: (fixedDigits 2 date.month ++ '-' ::
      (fixedDigits 2 date.day ++ mark :: (fixedDigits 2 hour ++ ':' :: (fixedDigits 2 minute ++
      ':' :: (fixedDigits 2 second ++ (fraction ++ rest))))))) = .ok (shown, rest) := by
  obtain ⟨hHour, hMinute, hSecond, -⟩ := Instant.bounds_of_ofClock? hShown
  have hMonth := date.month_le
  have hDay := date.day_le
  have hLast := hYear.2
  have hNumber : ((date.year.toNat : Nat) : Int) = date.year := Int.toNat_of_nonneg hYear.1
  have hDate : Date.ofParts? date.year date.month date.day = some date := dif_pos date.isDay
  have hTime : ∀ rest, readSymbol isDateEnd (mark :: rest) = .ok rest := fun _ => if_pos hMark
  simp (disch := omega) only [readLocal, bind, Except.bind, readDigits_fixedDigits,
    readSymbol_hyphen, readSymbol_colon, hTime, hNumber, hDate, hFraction, hShown]
  rfl

theorem readLocal_chars {instant : Instant} (hYear : instant.date.HasFourDigits) :
    readLocal (chars instant) = .ok (instant, ['Z']) := by
  have hFraction : readOptionalFraction ('.' :: fixedDigits 9 instant.fraction ++ ['Z']) =
      .ok (instant.fraction, ['Z']) :=
    readFraction_fixedDigits instant.clock_bounds.2.2.2 (by simp)
  have hMark : isDateEnd 'T' = true := rfl
  have hRead := readLocal_fields hYear hMark hFraction instant.ofClock?_clock
  rwa [List.cons_append, ← chars_eq hYear] at hRead

theorem read_text {instant : Instant} (hYear : instant.date.HasFourDigits) :
    read (text instant) = .ok instant := by
  have hLength : ¬ byteLength (chars instant) < 19 := by
    have hChars : (chars instant).length = 30 := by simp [chars_eq hYear]
    have hBytes := length_le_byteLength (chars instant)
    omega
  unfold read readChars text
  rw [String.toList_ofList, if_neg hLength, readLocal_chars hYear]
  simp [bind, Except.bind, readOffset, readEnd, toOffset, Instant.Offset.ofMinutes?,
    instant.ofLocal?_utc]
  rfl

/-- A form is read back only within the four digits, and then as its instant. -/
theorem read_text_eq_ok_iff {instant found : Instant} :
    read (text instant) = .ok found ↔ instant.date.HasFourDigits ∧ found = instant := by
  constructor
  · intro hRead
    by_cases hYear : instant.date.HasFourDigits
    · rw [read_text hYear] at hRead
      exact ⟨hYear, (Except.ok.inj hRead).symm⟩
    · obtain ⟨sign, rest, hSign, hChars⟩ := chars_eq_sign hYear
      have hDigit : sign.isDigit = false := by rcases hSign with rfl | rfl <;> rfl
      have hLocal : readLocal (chars instant) = .error .invalid := by
        simp [readLocal, hChars, readDigits, hDigit, bind, Except.bind]
      unfold read readChars text at hRead
      rw [String.toList_ofList, hLocal] at hRead
      split at hRead
      · cases hRead
      · cases hRead
  · rintro ⟨hYear, rfl⟩
    exact read_text hYear

/-! ### Order -/

theorem text_lt_text_iff {a b : Instant} (hYearA : a.date.HasFourDigits)
    (hYearB : b.date.HasFourDigits) : text a < text b ↔ a < b := by
  obtain ⟨hHourA, hMinuteA, hSecondA, hFractionA⟩ := a.clock_bounds
  obtain ⟨hHourB, hMinuteB, hSecondB, hFractionB⟩ := b.clock_bounds
  have hMonthA := a.date.month_le
  have hMonthB := b.date.month_le
  have hDayA := a.date.day_le
  have hDayB := b.date.day_le
  have hFirstA := hYearA.1
  have hFirstB := hYearB.1
  have hLastA := hYearA.2
  have hLastB := hYearB.2
  have hYears : a.date.year.toNat < b.date.year.toNat ↔ a.date.year < b.date.year := by omega
  have hSameYear : a.date.year.toNat = b.date.year.toNat ↔ a.date.year = b.date.year := by omega
  rw [String.lt_iff, text, text, String.toList_ofList, String.toList_ofList, chars_eq hYearA,
    chars_eq hYearB]
  simp (disch := omega) only [fixedDigits_append_lt_iff, List.cons_lt_cons_self, hYears, hSameYear]
  rw [fixedDigits_append_lt_iff hFractionA hFractionB]
  change _ ↔ Instant.Before a b
  unfold Instant.Before
  rw [← Instant.clock_lt_iff, Date.ext_iff]
  change _ ↔ Date.Before _ _ ∨ _
  unfold Date.Before
  simp only [List.lt_irrefl, and_false, or_false, and_or_left, or_assoc, and_assoc]

/-- A form with a sign stands before every form without. -/
private theorem text_lt_of_sign {a b : Instant} (hYearA : ¬ a.date.HasFourDigits)
    (hYearB : b.date.HasFourDigits) : text a < text b := by
  obtain ⟨sign, rest, hSign, hChars⟩ := chars_eq_sign hYearA
  rw [String.lt_iff, text, text, String.toList_ofList, String.toList_ofList, hChars, chars_eq hYearB]
  have hDigits : ∀ c ∈ fixedDigits 4 b.date.year.toNat, c.isDigit = true :=
    fun _ => isDigit_of_mem_fixedDigits
  have hLength := fixedDigits_length 4 b.date.year.toNat
  generalize fixedDigits 4 b.date.year.toNat = digits at hDigits hLength
  obtain ⟨c, later, rfl⟩ := List.exists_cons_of_length_pos (hLength ▸ (by decide : 0 < 4))
  have hZero : '0' ≤ c :=
    of_decide_eq_true (Bool.and_eq_true_iff.1 (hDigits c List.mem_cons_self)).1
  refine List.cons_lt_cons_iff.2 (.inl (lt_of_lt_of_le ?_ hZero))
  rcases hSign with rfl | rfl
  · decide
  · decide

theorem text_le_text_iff {a b : Instant} (hYearA : a.date.HasFourDigits)
    (hYearB : b.date.HasFourDigits) : text a ≤ text b ↔ a ≤ b := by
  rw [← not_lt, text_lt_text_iff hYearB hYearA, Instant.not_lt]

/-- As text, a day after the year 9999 starts before every instant of four digits. -/
theorem text_startOfDay_le_iff {date : Date} {instant : Instant}
    (hYear : instant.date.HasFourDigits) :
    text (Instant.startOfDay date) ≤ text instant ↔ 9999 < date.year ∨ date ≤ instant.date := by
  by_cases hDate : date.HasFourDigits
  · have hOrder := text_le_text_iff (a := Instant.startOfDay date) hDate hYear
    have hInside : ¬ 9999 < date.year := Int.not_lt.2 hDate.2
    rw [hOrder, Instant.startOfDay_le_iff]
    exact ⟨.inr, fun hCases => hCases.resolve_left hInside⟩
  · have hBefore := text_lt_of_sign (a := Instant.startOfDay date) hDate hYear
    refine iff_of_true hBefore.le ?_
    by_cases hLate : 9999 < date.year
    · exact .inl hLate
    · -- what is left are the years before the year 0
      have hFirst := hYear.1
      unfold Date.HasFourDigits at hDate
      exact .inr (.inl (.inl (by omega)))

theorem hasFourDigits_endOfDay {date : Date} :
    (Instant.endOfDay date).date.HasFourDigits ↔ date.HasFourDigits := by
  rw [Instant.endOfDay_date]

/-- As text, no instant of four digits stands before the end of a day outside the four digits. -/
theorem text_le_endOfDay_iff {date : Date} {instant : Instant}
    (hYear : instant.date.HasFourDigits) :
    text instant ≤ text (Instant.endOfDay date) ↔
      date.year ≤ 9999 ∧ instant ≤ Instant.endOfDay date := by
  by_cases hDate : date.HasFourDigits
  · rw [text_le_text_iff hYear (hasFourDigits_endOfDay.2 hDate)]
    exact ⟨fun hOrder => ⟨hDate.2, hOrder⟩, And.right⟩
  · have hAfter := text_lt_of_sign (mt hasFourDigits_endOfDay.1 hDate) hYear
    refine iff_of_false (not_le.2 hAfter) ?_
    rintro ⟨hLast, hOrder⟩
    have hDates := Instant.date_le_of_le_endOfDay hOrder
    have hRank := Date.le_iff_rank.1 hDates
    have hFirst := hYear.1
    have hMonth := date.month_le
    have hDay := date.day_le
    unfold Date.HasFourDigits at hDate
    unfold Date.rank at hRank
    omega

end Timestamp
end LawnCalibration.Calendar
