import LawnCalibration.Proofs.Calendar.Days
import Mathlib.Order.Cover

/-
The first and the last nanosecond of a day.

The end of a day is reckoned from its start: a day later, less a nanosecond, or
the end of the calendar where no such instant exists.  On every day that gives
the last nanosecond of the last second.  Leap seconds aside, the instants from
the start to the end are those of the day, and none lies between the end of a
day and the start of the day after it.
-/

set_option autoImplicit false

namespace LawnCalibration.Calendar

namespace Date

variable {date later : Date}

private theorem previous?_of_next? (hNext : date.next? = some later) :
    later.previous? = some date := by
  have hLater := number_next? hNext
  cases hPrevious : later.previous? with
  | none =>
      -- the first day of the calendar comes after no other
      obtain ⟨hYear, hMonth, hDay⟩ := previous?_eq_none_iff.1 hPrevious
      have hOrder : date < later := number_lt_iff.1 (by omega)
      have hIsDay := date.isDay
      unfold IsDay at hIsDay
      rw [lt_iff_rank, rank, rank, hYear, hMonth, hDay] at hOrder
      omega
  | some earlier =>
      have hEarlier := number_previous? hPrevious
      exact congrArg some (eq_of_number_eq (by omega))

/-- The day after a date is the least of all later ones. -/
theorem next?_eq_some_iff : date.next? = some later ↔ date ⋖ later := by
  constructor
  · intro hNext
    have hLater := number_next? hNext
    refine ⟨number_lt_iff.1 (by omega), fun between hAfter hBefore => ?_⟩
    rw [← number_lt_iff] at hAfter hBefore
    omega
  · rintro ⟨hOrder, hNone⟩
    cases hNext : date.next? with
    | none =>
        obtain ⟨hYear, hMonth, hDay⟩ := next?_eq_none_iff.1 hNext
        have hIsDay := later.isDay
        have hDays := later.day_le
        unfold IsDay at hIsDay
        rw [lt_iff_rank, rank, rank, hYear, hMonth, hDay] at hOrder
        omega
    | some next =>
        have hNumber := number_next? hNext
        have hNotBefore := hNone (c := next) (number_lt_iff.1 (by omega))
        rw [← number_lt_iff] at hOrder hNotBefore
        exact congrArg some (eq_of_number_eq (by omega))

end Date

namespace Instant

variable {date later : Date} {instant : Instant}

private theorem dayLater?_startOfDay (date : Date) :
    (startOfDay date).dayLater? = date.next?.map startOfDay := rfl

private theorem nanosecondEarlier?_startOfDay (hPrevious : later.previous? = some date) :
    ∃ instant, (startOfDay later).nanosecondEarlier? = some instant ∧ instant.date = date ∧
      instant.second = secondsPerDay - 1 ∧ instant.nano = nanosPerSecond - 1 := by
  have hMidnight : ¬ 0 < (startOfDay later).second ∧ ¬ 0 < (startOfDay later).nano :=
    ⟨Nat.lt_irrefl 0, Nat.lt_irrefl 0⟩
  have hDate : (startOfDay later).date.previous? = some date := hPrevious
  simp only [nanosecondEarlier?, if_neg hMidnight.1, if_neg hMidnight.2, hDate, Option.map_some]
  exact ⟨_, rfl, rfl, rfl, rfl⟩

/-- The overflow after the last day does no harm: that day ends with the calendar. -/
theorem endOfDay_fields (date : Date) :
    (endOfDay date).date = date ∧ (endOfDay date).second = secondsPerDay - 1 ∧
      (endOfDay date).nano = nanosPerSecond - 1 := by
  unfold endOfDay
  rw [dayLater?_startOfDay]
  cases hNext : date.next? with
  | none =>
      obtain ⟨hYear, hMonth, hDay⟩ := Date.next?_eq_none_iff.1 hNext
      exact ⟨(Date.ext hYear hMonth hDay).symm, rfl, rfl⟩
  | some later =>
      obtain ⟨instant, hEarlier, hFields⟩ :=
        nanosecondEarlier?_startOfDay (Date.previous?_of_next? hNext)
      rw [Option.map_some, Option.bind_some, hEarlier]
      exact hFields

@[simp] theorem endOfDay_date (date : Date) : (endOfDay date).date = date :=
  (endOfDay_fields date).1

theorem date_le_of_le_endOfDay (hOrder : instant ≤ endOfDay date) : instant.date ≤ date := by
  have hDates := date_le_of_le hOrder
  rwa [endOfDay_date] at hDates

/-- Outside a leap second the last nanosecond of a day ends it. -/
theorem le_endOfDay_iff (hLeap : instant.nano < nanosPerSecond) :
    instant ≤ endOfDay date ↔ instant.date ≤ date := by
  obtain ⟨hDate, hLastSecond, hLastNano⟩ := endOfDay_fields date
  refine ⟨date_le_of_le_endOfDay, fun hDates => not_lt.1 ?_⟩
  have hSecond := instant.second_lt
  rintro (hAfter | ⟨-, hLate | ⟨-, hLate⟩⟩)
  · rw [hDate] at hAfter
    exact Date.not_lt.2 hDates hAfter
  · omega
  · omega

theorem between_bounds_iff (hLeap : instant.nano < nanosPerSecond) :
    startOfDay date ≤ instant ∧ instant ≤ endOfDay date ↔ instant.date = date := by
  rw [startOfDay_le_iff, le_endOfDay_iff hLeap, Date.le_and_le_iff]

/-- The end of a day and the start of the next have nothing but a leap second between them. -/
theorem not_between_days (hNext : date ⋖ later) (hLeap : instant.nano < nanosPerSecond) :
    ¬ (endOfDay date < instant ∧ instant < startOfDay later) := by
  rintro ⟨hAfter, hBefore⟩
  have hDate : date < instant.date := by
    by_contra hDate
    exact not_lt.2 ((le_endOfDay_iff hLeap).2 (Date.not_lt.1 hDate)) hAfter
  have hLater : instant.date < later := by
    by_contra hLater
    exact not_lt.2 (startOfDay_le_iff.2 (Date.not_lt.1 hLater)) hBefore
  exact hNext.2 hDate hLater

end Instant
end LawnCalibration.Calendar
