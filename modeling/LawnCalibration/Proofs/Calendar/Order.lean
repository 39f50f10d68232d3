import LawnCalibration.Calendar.Instant
import Mathlib.Tactic.Common

/-
Dates and instants in order.

A date and an instant have ranks, so that earlier in time is the same as lower
in rank.  The ranks only serve to compare: they count days that no calendar has.
-/

set_option autoImplicit false

namespace LawnCalibration.Calendar

private theorem daysInMonth_le (year : Int) (month : Nat) : daysInMonth year month ≤ 31 := by
  unfold daysInMonth
  split
  · split <;> omega
  · split <;> omega

namespace Date

def rank (date : Date) : Int :=
  (date.year * 13 + date.month) * 32 + date.day

theorem month_le (date : Date) : date.month ≤ 12 :=
  date.isDay.2.1.2

theorem day_le (date : Date) : date.day ≤ 31 :=
  Nat.le_trans date.isDay.2.2.2 (daysInMonth_le date.year date.month)

theorem lt_iff_rank {a b : Date} : a < b ↔ a.rank < b.rank := by
  have hMonthA := a.month_le
  have hMonthB := b.month_le
  have hDayA := a.day_le
  have hDayB := b.day_le
  change Date.Before a b ↔ _
  unfold Date.Before rank
  omega

private theorem eq_iff_rank {a b : Date} : a = b ↔ a.rank = b.rank := by
  have hMonthA := a.month_le
  have hMonthB := b.month_le
  have hDayA := a.day_le
  have hDayB := b.day_le
  rw [Date.ext_iff]
  unfold rank
  omega

theorem le_iff_rank {a b : Date} : a ≤ b ↔ a.rank ≤ b.rank := by
  change a < b ∨ a = b ↔ _
  rw [lt_iff_rank, eq_iff_rank]
  omega

theorem not_lt {a b : Date} : ¬ a < b ↔ b ≤ a := by
  rw [lt_iff_rank, le_iff_rank]
  omega

theorem le_and_le_iff {a b : Date} : a ≤ b ∧ b ≤ a ↔ b = a := by
  rw [le_iff_rank, le_iff_rank, eq_iff_rank]
  omega

end Date

namespace Instant

def rank (instant : Instant) : Int :=
  (instant.date.rank * secondsPerDay + instant.second) * (2 * nanosPerSecond) + instant.nano

theorem lt_iff_rank {a b : Instant} : a < b ↔ a.rank < b.rank := by
  have hSecondA := a.second_lt
  have hSecondB := b.second_lt
  have hNanoA := a.nano_lt
  have hNanoB := b.nano_lt
  change Instant.Before a b ↔ _
  unfold Instant.Before rank
  rw [Date.lt_iff_rank, Date.eq_iff_rank]
  simp only [secondsPerDay, nanosPerSecond] at *
  omega

private theorem eq_iff_rank {a b : Instant} : a = b ↔ a.rank = b.rank := by
  have hSecondA := a.second_lt
  have hSecondB := b.second_lt
  have hNanoA := a.nano_lt
  have hNanoB := b.nano_lt
  rw [Instant.ext_iff, Date.eq_iff_rank]
  unfold rank
  simp only [secondsPerDay, nanosPerSecond] at *
  omega

theorem le_iff_rank {a b : Instant} : a ≤ b ↔ a.rank ≤ b.rank := by
  change a < b ∨ a = b ↔ _
  rw [lt_iff_rank, eq_iff_rank]
  omega

theorem not_lt {a b : Instant} : ¬ a < b ↔ b ≤ a := by
  rw [lt_iff_rank, le_iff_rank]
  omega

theorem le_refl (instant : Instant) : instant ≤ instant :=
  .inr rfl

theorem le_trans {a b c : Instant} (hFirst : a ≤ b) (hSecond : b ≤ c) : a ≤ c := by
  rw [le_iff_rank] at *
  omega

theorem le_total (a b : Instant) : a ≤ b ∨ b ≤ a := by
  rw [le_iff_rank, le_iff_rank]
  omega

theorem date_le_of_le {a b : Instant} (hOrder : a ≤ b) : a.date ≤ b.date := by
  rcases hOrder with (hDate | ⟨hDate, -⟩) | rfl
  · exact .inl hDate
  · exact .inr hDate
  · exact .inr rfl

theorem startOfDay_le_iff {date : Date} {instant : Instant} :
    startOfDay date ≤ instant ↔ date ≤ instant.date := by
  refine ⟨date_le_of_le, fun hDate => not_lt.1 ?_⟩
  rintro (hBefore | ⟨-, hSecond | ⟨-, hNano⟩⟩)
  · exact Date.not_lt.2 hDate hBefore
  · exact Nat.not_lt_zero _ hSecond
  · exact Nat.not_lt_zero _ hNano

end Instant
end LawnCalibration.Calendar
