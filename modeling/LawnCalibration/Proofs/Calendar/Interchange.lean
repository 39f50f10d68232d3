import LawnCalibration.Calendar.Interchange
import LawnCalibration.Proofs.Calendar.Timestamp

/-
Instants in the form that documents carry.

Every instant is read back from its form: in any year of the calendar, with any
fraction, in leap seconds too.
-/

set_option autoImplicit false

namespace LawnCalibration.Calendar

open Text

theorem isBlank_of_isDigit {c : Char} (hDigit : c.isDigit = true) : isBlank c = false := by
  simp only [Char.isDigit, Bool.and_eq_true, decide_eq_true_eq, ge_iff_le, UInt32.le_iff_toNat_le]
    at hDigit
  have hFirst : 48 ≤ c.toNat := hDigit.1
  have hLast : c.toNat ≤ 57 := hDigit.2
  simp only [isBlank, Bool.or_eq_false_iff, Bool.and_eq_false_iff, decide_eq_false_iff_not,
    beq_eq_false_iff_ne]
  omega

private theorem trimStart_of_digits {digits : List Char} (hDigits : ∀ c ∈ digits, c.isDigit = true)
    (hSome : digits ≠ []) (rest : List Char) : trimStart (digits ++ rest) = digits ++ rest := by
  obtain ⟨c, later, rfl⟩ := List.exists_cons_of_ne_nil hSome
  have hBlank : isBlank c = false := isBlank_of_isDigit (hDigits c List.mem_cons_self)
  rw [List.cons_append]
  exact List.dropWhile_cons_of_neg (by simp [hBlank])

/-- A run of digits that the field takes in full. -/
private theorem readNumber_digits {width : Nat} {digits rest : List Char}
    (hDigits : ∀ c ∈ digits, c.isDigit = true) (hSome : digits ≠ [])
    (hWidth : digits.length ≤ width)
    (hRest : ∀ c, (rest.take (width - digits.length)).head? = some c → c.isDigit = false) :
    readNumber width (digits ++ rest) = .ok (decimalValue digits, rest) := by
  obtain ⟨c, later, rfl⟩ := List.exists_cons_of_ne_nil hSome
  have hTaken : ((c :: later ++ rest).take width).takeWhile Char.isDigit = c :: later := by
    rw [List.take_append, List.take_of_length_le hWidth]
    exact takeWhile_run hDigits hRest
  have hLeft : (c :: later ++ rest).drop (c :: later).length = rest := List.drop_left
  rw [List.cons_append] at hTaken hLeft ⊢
  simp only [readNumber, if_pos (hDigits c List.mem_cons_self), hTaken, hLeft]

private theorem readNumber_fixedDigits {width n : Nat} (hWidth : 0 < width)
    (hBound : n < 10 ^ width)
    (rest : List Char) : readNumber width (fixedDigits width n ++ rest) = .ok (n, rest) := by
  have hLength := fixedDigits_length width n
  rw [readNumber_digits (fun _ => isDigit_of_mem_fixedDigits) (fixedDigits_ne_nil hWidth n)
    hLength.le (by simp [hLength]), decimalValue_fixedDigits_of_lt hBound]

private theorem readBounded_fixedDigits {low high n : Nat} (hLow : low ≤ n) (hHigh : n ≤ high)
    (hBound : n < 100) (rest : List Char) :
    readBounded 2 low high (fixedDigits 2 n ++ rest) = .ok (n, rest) := by
  unfold readBounded
  rw [trimStart_of_digits (fun _ => isDigit_of_mem_fixedDigits) (fixedDigits_ne_nil (by decide) n),
    readNumber_fixedDigits (by decide) hBound]
  exact if_pos ⟨hLow, hHigh⟩

private theorem readYear_of_digits {digits rest : List Char}
    (hDigits : ∀ c ∈ digits, c.isDigit = true)
    (hLength : digits.length = 4) :
    readYear (digits ++ rest) = .ok ((decimalValue digits : Int), rest) := by
  have hSome : digits ≠ [] := List.ne_nil_of_length_pos (hLength ▸ (by decide : 0 < 4))
  have hRead : readNumber 4 (digits ++ rest) = .ok (decimalValue digits, rest) :=
    readNumber_digits hDigits hSome hLength.le (by simp [hLength])
  have hTrim := trimStart_of_digits hDigits hSome rest
  obtain ⟨c, later, rfl⟩ := List.exists_cons_of_ne_nil hSome
  have hDigit := hDigits c List.mem_cons_self
  unfold readYear
  rw [hTrim]
  split
  next hMinus =>
    rw [(List.cons.inj hMinus).1] at hDigit
    cases hDigit
  next hPlus =>
    rw [(List.cons.inj hPlus).1] at hDigit
    cases hDigit
  next => rw [hRead]

private theorem readLongNumber_digits {digits rest : List Char}
    (hDigits : ∀ c ∈ digits, c.isDigit = true)
    (hSome : digits ≠ []) (hRest : ∀ c, rest.head? = some c → c.isDigit = false)
    (hBound : decimalValue digits < Nat.pow 2 63) :
    readLongNumber (digits ++ rest) = .ok (decimalValue digits, rest) := by
  have hAll : rest.take ((digits ++ rest).length - digits.length) = rest := by
    rw [List.length_append, Nat.add_sub_cancel_left, List.take_length]
  unfold readLongNumber
  rw [readNumber_digits hDigits hSome (by simp) (by rw [hAll]; exact hRest)]
  exact if_pos hBound

/-- A year outside the four digits, behind its sign. -/
theorem yearChars_of_not_fourDigits {year : Int} (hYear : ¬ (0 ≤ year ∧ year ≤ 9999)) :
    ∃ digits, yearChars year = (if year < 0 then '-' else '+') :: digits ∧
      (∀ c ∈ digits, c.isDigit = true) ∧ digits ≠ [] ∧ decimalValue digits = year.natAbs := by
  refine ⟨_, if_neg hYear, ?_⟩
  by_cases hShort : year.natAbs < 10000
  · rw [if_pos hShort]
    exact ⟨fun _ => isDigit_of_mem_fixedDigits, fixedDigits_ne_nil (by decide) _,
      decimalValue_fixedDigits_of_lt hShort⟩
  · rw [if_neg hShort]
    exact ⟨fun _ => isDigit_of_mem_decimalDigits, decimalDigits_ne_nil _,
      decimalValue_decimalDigits _⟩

private theorem readYear_yearChars {year : Int} (hFirst : firstYear ≤ year)
    (hLast : year ≤ lastYear)
    (rest : List Char) : readYear (yearChars year ++ '-' :: rest) = .ok (year, '-' :: rest) := by
  unfold firstYear at hFirst
  unfold lastYear at hLast
  by_cases hYear : 0 ≤ year ∧ year ≤ 9999
  · have hBound : year.toNat < 10 ^ 4 := by omega
    have hNumber : yearChars year = fixedDigits 4 year.toNat := if_pos hYear
    rw [hNumber, readYear_of_digits (fun _ => isDigit_of_mem_fixedDigits) (fixedDigits_length 4 _),
      decimalValue_fixedDigits_of_lt hBound, Int.toNat_of_nonneg hYear.1]
  · obtain ⟨digits, hChars, hDigits, hSome, hValue⟩ := yearChars_of_not_fourDigits hYear
    have hRead : readLongNumber (digits ++ '-' :: rest) = .ok (year.natAbs, '-' :: rest) := by
      rw [← hValue]
      refine readLongNumber_digits hDigits hSome (by simp) ?_
      rw [hValue]
      have hSize : Nat.pow 2 63 = 9223372036854775808 := rfl
      omega
    have hSize : Int.pow 2 31 = 2147483648 := rfl
    rw [hChars, List.cons_append]
    by_cases hNegative : year < 0
    · have hSame : -1 * (year.natAbs : Int) = year := by omega
      have hTrim (text : List Char) : trimStart ('-' :: text) = '-' :: text := rfl
      simp only [if_pos hNegative, readYear, hTrim, hRead, hSame]
      exact if_pos (by omega)
    · have hSame : 1 * (year.natAbs : Int) = year := by omega
      have hTrim (text : List Char) : trimStart ('+' :: text) = '+' :: text := rfl
      simp only [if_neg hNegative, readYear, hTrim, hRead, hSame]
      exact if_pos (by omega)

namespace Interchange

private theorem readOptionalFraction_point {width n : Nat} (hSome : 0 < width) (hWidth : width ≤ 9)
    (hBound : n < 10 ^ width) :
    readOptionalFraction ('.' :: fixedDigits width n ++ ['Z']) =
      .ok (n * Nat.pow 10 (9 - width), ['Z']) := by
  have hLength := fixedDigits_length width n
  change readFraction (fixedDigits width n ++ ['Z']) = _
  rw [readFraction_digits (fun _ => isDigit_of_mem_fixedDigits) (fixedDigits_ne_nil hSome n)
    (hLength.le.trans hWidth) (by simp), hLength, decimalValue_fixedDigits_of_lt hBound]

/-- Groups of three zeros that are left out count as nothing. -/
private theorem readOptionalFraction_fractionChars {nano : Nat} (hBound : nano < nanosPerSecond) :
    readOptionalFraction (fractionChars nano ++ ['Z']) = .ok (nano, ['Z']) := by
  unfold nanosPerSecond at hBound
  unfold fractionChars
  by_cases hZero : nano = 0
  · rw [if_pos hZero, hZero]
    rfl
  · rw [if_neg hZero]
    by_cases hMillis : nano % 1000000 = 0
    · have hSame : nano / 1000000 * Nat.pow 10 (9 - 3) = nano :=
        Nat.div_mul_cancel (Nat.dvd_of_mod_eq_zero hMillis)
      rw [if_pos hMillis, readOptionalFraction_point (by decide) (by decide) (by omega), hSame]
    · rw [if_neg hMillis]
      by_cases hMicros : nano % 1000 = 0
      · have hSame : nano / 1000 * Nat.pow 10 (9 - 6) = nano :=
          Nat.div_mul_cancel (Nat.dvd_of_mod_eq_zero hMicros)
        rw [if_pos hMicros, readOptionalFraction_point (by decide) (by decide) (by omega), hSame]
      · have hSame : nano * Nat.pow 10 (9 - 9) = nano := Nat.mul_one nano
        rw [if_neg hMicros, readOptionalFraction_point (by decide) (by decide) hBound, hSame]

theorem chars_eq (instant : Instant) :
    chars instant = yearChars instant.date.year ++ '-' ::
      (fixedDigits 2 instant.date.month ++ '-' :: (fixedDigits 2 instant.date.day ++ 'T' ::
      (fixedDigits 2 instant.hour ++ ':' :: (fixedDigits 2 instant.minute ++ ':' ::
      (fixedDigits 2 instant.clockSecond ++ (fractionChars instant.fraction ++ ['Z'])))))) := by
  simp only [chars, dateChars, clockChars, List.append_assoc, List.cons_append]

private theorem trimStart_hyphen (rest : List Char) : trimStart ('-' :: rest) = '-' :: rest := rfl

private theorem trimStart_colon (rest : List Char) : trimStart (':' :: rest) = ':' :: rest := rfl

theorem readParts_date {beforeHyphen : List Char → List Char}
    (hHyphen : ∀ rest, beforeHyphen ('-' :: rest) = '-' :: rest) (date : Date) (rest : List Char) :
    Date.readParts beforeHyphen (yearChars date.year ++ '-' :: (fixedDigits 2 date.month ++ '-' ::
      (fixedDigits 2 date.day ++ rest))) = .ok ((date.year, date.month, date.day), rest) := by
  obtain ⟨⟨hFirst, hLast⟩, ⟨hMonth, hMonths⟩, hDay, -⟩ := date.isDay
  have hDays := date.day_le
  rw [Date.readParts, readYear_yearChars hFirst hLast]
  simp (disch := omega) only [bind, Except.bind, hHyphen, readSymbol_hyphen,
    readBounded_fixedDigits]
  rfl

theorem readLocal_chars (instant : Instant) :
    readLocal (chars instant) = .ok (some instant, ['Z']) := by
  obtain ⟨hHour, hMinute, hSecond, hFraction⟩ := instant.clock_bounds
  have hDate : Date.ofParts? instant.date.year instant.date.month instant.date.day =
      some instant.date := dif_pos instant.date.isDay
  have hTime : ∀ rest, readSymbol isDateEnd ('T' :: rest) = .ok rest := fun _ => rfl
  have hClock : (Date.ofParts? instant.date.year instant.date.month instant.date.day).bind
      (fun date => Instant.ofClock? date instant.hour instant.minute instant.clockSecond
        instant.fraction) = some instant := by
    rw [hDate, Option.bind_some, instant.ofClock?_clock]
  rw [chars_eq, readLocal, readParts_date trimStart_hyphen]
  simp (disch := omega) only [bind, Except.bind, hTime, readBounded_fixedDigits, trimStart_colon,
    readSymbol_colon, readOptionalFraction_fractionChars hFraction]
  exact congrArg (fun shown? => Except.ok (shown?, ['Z'])) hClock

theorem read_text (instant : Instant) : read (text instant) = .ok instant := by
  have hZone : readOffset (trimStart ['Z']) = .ok (0, []) := rfl
  have hOffset : toOffset 0 = .ok ⟨0, by decide, by decide⟩ := rfl
  have hEnd : readEnd (trimStart []) = .ok () := rfl
  unfold read text
  rw [String.toList_ofList, readLocal_chars]
  simp only [bind, Except.bind, hZone, hOffset, hEnd, Option.bind_some, instant.ofLocal?_utc]
  rfl

end Interchange
end LawnCalibration.Calendar
