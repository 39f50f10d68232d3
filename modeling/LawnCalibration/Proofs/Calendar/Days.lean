import LawnCalibration.Proofs.Calendar.Order
import Mathlib.Order.Monotone.Basic

/-
Days and seconds counted through.

A day has a number that grows by one from each day to the next, and an instant
has a number of seconds.  A local clock that is ahead shows as many seconds more
as it is ahead.
-/

set_option autoImplicit false

namespace LawnCalibration.Calendar

/-- The days from the start of the year zero to the start of a year, every fourth year longer by
one but for three centuries out of four. -/
def daysBeforeYear (year : Int) : Int :=
  365 * year + (year + 3) / 4 - (year + 99) / 100 + (year + 399) / 400

def daysBeforeMonth (year : Int) : Nat → Nat
  | 0 => 0
  | 1 => 0
  | month + 2 => daysBeforeMonth year (month + 1) + daysInMonth year (month + 1)

private theorem daysInMonth_pos (year : Int) (month : Nat) : 0 < daysInMonth year month := by
  unfold daysInMonth
  split
  · split <;> decide
  · split <;> decide

private theorem daysBeforeMonth_succ (year : Int) {month : Nat} (hMonth : 1 ≤ month) :
    daysBeforeMonth year (month + 1) = daysBeforeMonth year month + daysInMonth year month := by
  obtain ⟨earlier, rfl⟩ := Nat.exists_eq_add_of_le' hMonth
  rfl

private theorem daysBeforeMonth_mono (year : Int) : Monotone (daysBeforeMonth year) := by
  refine monotone_nat_of_le_succ fun month => ?_
  cases month with
  | zero => exact Nat.le_refl 0
  | succ month => exact Nat.le_add_right _ _

/-- After its twelve months a year is over. -/
private theorem daysBeforeYear_succ (year : Int) :
    daysBeforeYear (year + 1) = daysBeforeYear year + daysBeforeMonth year 13 := by
  have hMonths : daysBeforeMonth year 13 = 337 + daysInMonth year 2 := by
    simp [daysBeforeMonth, daysInMonth]
    omega
  have hFebruary : daysInMonth year 2 = if isLeapYear year then 29 else 28 := rfl
  rw [hMonths, hFebruary]
  cases hLeap : isLeapYear year with
  | true =>
      simp only [isLeapYear, Bool.and_eq_true, Bool.or_eq_true, beq_iff_eq, bne_iff_ne] at hLeap
      simp only [daysBeforeYear, if_true]
      omega
  | false =>
      simp only [isLeapYear, Bool.and_eq_false_iff, Bool.or_eq_false_iff, beq_eq_false_iff_ne,
        bne_eq_false_iff_eq] at hLeap
      simp only [daysBeforeYear, Bool.false_eq_true, if_false]
      omega

private theorem daysBeforeYear_mono {first last : Int} (hOrder : first ≤ last) :
    daysBeforeYear first ≤ daysBeforeYear last := by
  refine monotone_int_of_le_succ (fun year => ?_) hOrder
  rw [daysBeforeYear_succ]
  omega

namespace Date

variable {a b date later earlier : Date}

def number (date : Date) : Int :=
  daysBeforeYear date.year + daysBeforeMonth date.year date.month + date.day

theorem ofParts?_eq_some {year : Int} {month day : Nat}
    (hDate : ofParts? year month day = some date) :
    date.year = year ∧ date.month = month ∧ date.day = day := by
  unfold ofParts? at hDate
  split at hDate
  · obtain rfl := Option.some.inj hDate
    exact ⟨rfl, rfl, rfl⟩
  · cases hDate

theorem ofParts?_eq_none_iff {year : Int} {month day : Nat} :
    ofParts? year month day = none ↔ ¬ IsDay year month day := by
  unfold ofParts?
  split
  · rename_i hIsDay
    exact ⟨nofun, fun hNo => absurd hIsDay hNo⟩
  · rename_i hIsDay
    exact ⟨fun _ => hIsDay, fun _ => rfl⟩

/-- A day is over before the next month starts. -/
private theorem number_le_month (date : Date) :
    date.number ≤ daysBeforeYear date.year + daysBeforeMonth date.year (date.month + 1) := by
  have hDay := date.isDay.2.2.2
  have hMonth := daysBeforeMonth_succ date.year date.isDay.2.1.1
  unfold number
  omega

/-- A day is over before the next year starts. -/
private theorem number_le_year (date : Date) : date.number ≤ daysBeforeYear (date.year + 1) := by
  have hMonths : daysBeforeMonth date.year (date.month + 1) ≤ daysBeforeMonth date.year 13 :=
    daysBeforeMonth_mono date.year (Nat.succ_le_succ date.month_le)
  have hDay := date.number_le_month
  rw [daysBeforeYear_succ]
  omega

theorem number_lt_of_lt (hOrder : a < b) : a.number < b.number := by
  have hDay := b.isDay.2.2.1
  rcases hOrder with hYear | ⟨hYear, hMonth | ⟨hMonth, hEarlier⟩⟩
  · have hYears : daysBeforeYear (a.year + 1) ≤ daysBeforeYear b.year := daysBeforeYear_mono hYear
    have hEnd := a.number_le_year
    simp only [number] at *
    omega
  · have hMonths : daysBeforeMonth b.year (a.month + 1) ≤ daysBeforeMonth b.year b.month :=
      daysBeforeMonth_mono b.year hMonth
    have hEnd := a.number_le_month
    rw [hYear] at hEnd
    unfold number at *
    omega
  · simp only [number, hYear, hMonth]
    omega

theorem number_lt_iff : a.number < b.number ↔ a < b := by
  refine ⟨fun hNumbers => ?_, number_lt_of_lt⟩
  by_contra hOrder
  rcases not_lt.1 hOrder with hLater | rfl
  · have hReverse := number_lt_of_lt hLater
    omega
  · exact Int.lt_irrefl _ hNumbers

theorem eq_of_number_eq (hNumbers : a.number = b.number) : a = b := by
  have hNotBefore : ¬ a < b := fun hOrder => Int.ne_of_lt (number_lt_of_lt hOrder) hNumbers
  have hNotAfter : ¬ b < a := fun hOrder => Int.ne_of_lt (number_lt_of_lt hOrder) hNumbers.symm
  exact le_and_le_iff.1 ⟨not_lt.1 hNotBefore, not_lt.1 hNotAfter⟩

/-! ### Neighbours -/

theorem number_next? (hNext : date.next? = some later) : later.number = date.number + 1 := by
  have hIsDay := date.isDay
  unfold next? at hNext
  split at hNext
  next sameMonth hSame =>
    obtain rfl := Option.some.inj hNext
    obtain ⟨hYear, hMonth, hDay⟩ := ofParts?_eq_some hSame
    simp only [number, hYear, hMonth, hDay]
    omega
  next hMonthOver =>
    have hLastDay : date.day = daysInMonth date.year date.month := by
      have hNoDay := ofParts?_eq_none_iff.1 hMonthOver
      unfold IsDay at hNoDay hIsDay
      omega
    have hMonthEnd := daysBeforeMonth_succ date.year hIsDay.2.1.1
    split at hNext
    next nextMonth hSame =>
      obtain rfl := Option.some.inj hNext
      obtain ⟨hYear, hMonth, hDay⟩ := ofParts?_eq_some hSame
      simp only [number, hYear, hMonth, hDay]
      omega
    next hYearOver =>
      have hLastMonth : date.month = 12 := by
        have hNoMonth := ofParts?_eq_none_iff.1 hYearOver
        have hDays := daysInMonth_pos date.year (date.month + 1)
        unfold IsDay at hNoMonth hIsDay
        omega
      obtain ⟨hYear, hMonth, hDay⟩ := ofParts?_eq_some hNext
      have hYearEnd := daysBeforeYear_succ date.year
      rw [← hLastDay, hLastMonth] at hMonthEnd
      change daysBeforeMonth date.year 13 = _ at hMonthEnd
      simp only [number, hYear, hMonth, hDay, hLastMonth]
      have hStart : daysBeforeMonth (date.year + 1) 1 = 0 := rfl
      omega

theorem number_previous? (hPrevious : date.previous? = some earlier) :
    earlier.number = date.number - 1 := by
  have hIsDay := date.isDay
  unfold previous? at hPrevious
  split at hPrevious
  next hLater =>
    obtain ⟨hYear, hMonth, hDay⟩ := ofParts?_eq_some hPrevious
    unfold IsDay at hIsDay
    simp only [number, hYear, hMonth, hDay]
    omega
  next hFirstDay =>
    split at hPrevious
    next hLater =>
      obtain ⟨hYear, hMonth, hDay⟩ := ofParts?_eq_some hPrevious
      have hBefore : 1 ≤ date.month - 1 := by
        unfold IsDay at hIsDay
        omega
      have hMonthEnd := daysBeforeMonth_succ date.year hBefore
      rw [Nat.sub_add_cancel hIsDay.2.1.1] at hMonthEnd
      simp only [number, hYear, hMonth, hDay]
      omega
    next hFirstMonth =>
      obtain ⟨hYear, hMonth, hDay⟩ := ofParts?_eq_some hPrevious
      have hYearEnd := daysBeforeYear_succ (date.year - 1)
      have hMonthEnd : daysBeforeMonth (date.year - 1) 13 = daysBeforeMonth (date.year - 1) 12 + 31 := rfl
      have hStart : daysBeforeMonth date.year 1 = 0 := rfl
      rw [Int.sub_add_cancel] at hYearEnd
      simp only [number, hYear, hMonth, hDay, not_not.1 hFirstMonth]
      omega

/-- Only the last day of the calendar has no day after it. -/
theorem next?_eq_none_iff :
    date.next? = none ↔ date.year = lastYear ∧ date.month = 12 ∧ date.day = 31 := by
  have hChoice : date.next? =
      ((ofParts? date.year date.month (date.day + 1)).or
        ((ofParts? date.year (date.month + 1) 1).or (ofParts? (date.year + 1) 1 1))) := by
    unfold next?
    split
    next hSame => rw [hSame, Option.some_or]
    next hMonthOver =>
      rw [hMonthOver, Option.none_or]
      split
      next hSame => rw [hSame, Option.some_or]
      next hYearOver => rw [hYearOver, Option.none_or]
  have hIsDay := date.isDay
  have hDecember : date.month = 12 → daysInMonth date.year date.month = 31 := by
    rintro hMonth
    rw [hMonth]
    rfl
  have hJanuary : daysInMonth (date.year + 1) 1 = 31 := rfl
  have hNextMonth := daysInMonth_pos date.year (date.month + 1)
  rw [hChoice, Option.or_eq_none_iff, Option.or_eq_none_iff, ofParts?_eq_none_iff,
    ofParts?_eq_none_iff, ofParts?_eq_none_iff]
  unfold IsDay at *
  omega

/-- Only the first day of the calendar has no day before it. -/
theorem previous?_eq_none_iff :
    date.previous? = none ↔ date.year = firstYear ∧ date.month = 1 ∧ date.day = 1 := by
  have hIsDay := date.isDay
  have hDecember : daysInMonth (date.year - 1) 12 = 31 := rfl
  have hDays := daysInMonth_pos date.year (date.month - 1)
  unfold previous?
  split
  next hLater =>
    rw [ofParts?_eq_none_iff]
    unfold IsDay at *
    omega
  next hFirstDay =>
    split
    next hLater =>
      rw [ofParts?_eq_none_iff]
      unfold IsDay at *
      omega
    next hFirstMonth =>
      rw [ofParts?_eq_none_iff]
      unfold IsDay at *
      omega

theorem exists_next? (hYear : date.year < lastYear) : ∃ later, date.next? = some later :=
  Option.ne_none_iff_exists'.1 fun hNone => Int.ne_of_lt hYear (next?_eq_none_iff.1 hNone).1

theorem exists_previous? (hYear : firstYear < date.year) :
    ∃ earlier, date.previous? = some earlier :=
  Option.ne_none_iff_exists'.1 fun hNone => Int.ne_of_gt hYear (previous?_eq_none_iff.1 hNone).1

end Date

/-! ### Instants -/

namespace Instant

variable {a b shown instant : Instant} {offset : Offset}

/-- The seconds before an instant; a leap second counts as the second that it prolongs. -/
def seconds (instant : Instant) : Int :=
  secondsPerDay * instant.date.number + instant.second

theorem eq_of_seconds_eq (hSeconds : a.seconds = b.seconds) (hNanos : a.nano = b.nano) : a = b := by
  have hSecondA := a.second_lt
  have hSecondB := b.second_lt
  simp only [seconds, secondsPerDay] at *
  have hDates : a.date = b.date := Date.eq_of_number_eq (by omega)
  rw [hDates] at hSeconds
  exact Instant.ext hDates (by omega) hNanos

/-- A local clock that is ahead by an offset has counted so many seconds more. -/
theorem seconds_ofLocal? (hInstant : ofLocal? shown offset = some instant) :
    instant.seconds = shown.seconds - 60 * offset.minutes ∧ instant.nano = shown.nano := by
  have hSecond := shown.second_lt
  have hLower := offset.lower
  have hUpper := offset.upper
  simp only [secondsPerDay] at hSecond
  dsimp only [ofLocal?] at hInstant
  split at hInstant
  next hEarly =>
    obtain ⟨date, hDate, rfl⟩ := Option.map_eq_some_iff.1 hInstant
    refine ⟨?_, rfl⟩
    simp only [seconds, Date.number_previous? hDate, secondsPerDay]
    omega
  next hNotEarly =>
    split at hInstant
    next hLate =>
      obtain ⟨date, hDate, rfl⟩ := Option.map_eq_some_iff.1 hInstant
      refine ⟨?_, rfl⟩
      simp only [seconds, Date.number_next? hDate, secondsPerDay]
      omega
    next hNotLate =>
      obtain rfl := Option.some.inj hInstant
      refine ⟨?_, rfl⟩
      simp only [seconds, secondsPerDay]
      omega

theorem exists_ofLocal? (shown : Instant) (offset : Offset)
    (hYear : firstYear < shown.date.year ∧ shown.date.year < lastYear) :
    ∃ instant, ofLocal? shown offset = some instant := by
  dsimp only [ofLocal?]
  split
  · obtain ⟨earlier, hDate⟩ := Date.exists_previous? hYear.1
    exact ⟨_, Option.map_eq_some_iff.2 ⟨earlier, hDate, rfl⟩⟩
  · split
    · obtain ⟨later, hDate⟩ := Date.exists_next? hYear.2
      exact ⟨_, Option.map_eq_some_iff.2 ⟨later, hDate, rfl⟩⟩
    · exact ⟨_, rfl⟩

end Instant
end LawnCalibration.Calendar
