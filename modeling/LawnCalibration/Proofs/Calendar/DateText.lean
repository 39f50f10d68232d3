import LawnCalibration.Calendar.DateText
import LawnCalibration.Proofs.Calendar.Interchange

/-
Dates as text and as whole days.

A date is read back from its text in any year of the calendar, whatever white
space stands around it.  As stretches of time the dates divide the calendar: an
instant outside the leap seconds lies between the bounds of one day, its own.
-/

set_option autoImplicit false

namespace LawnCalibration.Calendar

open Text

private theorem not_isBlank_of_mem_yearChars {year : Int} {c : Char}
    (hMember : c ∈ yearChars year) :
    isBlank c = false := by
  by_cases hYear : 0 ≤ year ∧ year ≤ 9999
  · have hNumber : yearChars year = fixedDigits 4 year.toNat := if_pos hYear
    rw [hNumber] at hMember
    exact isBlank_of_isDigit (isDigit_of_mem_fixedDigits hMember)
  · obtain ⟨digits, hChars, hDigits, -, -⟩ := yearChars_of_not_fourDigits hYear
    rw [hChars] at hMember
    rcases List.mem_cons.1 hMember with rfl | hDigit
    · split
      · rfl
      · rfl
    · exact isBlank_of_isDigit (hDigits c hDigit)

private theorem not_isBlank_of_mem_dateChars (date : Date) :
    ∀ c ∈ dateChars date, isBlank c = false := by
  have hDigits (n : Nat) : ∀ c ∈ fixedDigits 2 n, isBlank c = false :=
    fun _ hMember => isBlank_of_isDigit (isDigit_of_mem_fixedDigits hMember)
  have hHyphen : isBlank '-' = false := rfl
  simp only [dateChars, List.forall_mem_append, List.forall_mem_cons, hHyphen, true_and]
  exact ⟨⟨fun _ => not_isBlank_of_mem_yearChars, hDigits _⟩, hDigits _⟩

namespace Date

private theorem readParts_dateChars (date : Date) :
    readParts id (dateChars date) = .ok ((date.year, date.month, date.day), []) := by
  have hHyphen (rest : List Char) : id ('-' :: rest) = '-' :: rest := rfl
  have hRead := Interchange.readParts_date hHyphen date []
  simpa only [dateChars, List.append_assoc, List.cons_append, List.append_nil] using hRead

theorem read_surrounded {before after : String} (hBefore : allBlank before = true)
    (hAfter : allBlank after = true) (date : Date) :
    read (before ++ date.text ++ after) = .ok date := by
  have hTrim : trim (before ++ date.text ++ after).toList = dateChars date := by
    rw [String.toList_append, String.toList_append, text, String.toList_ofList,
      trim_surrounded (List.all_eq_true.1 hBefore) (List.all_eq_true.1 hAfter),
      trim_eq_self (not_isBlank_of_mem_dateChars date)]
  have hDate : ofParts? date.year date.month date.day = some date := dif_pos date.isDay
  unfold read
  rw [hTrim, readParts_dateChars]
  simp only [bind, Except.bind, readEnd, if_true, ofParts, hDate]

end Date

/-- Leap seconds aside, the bounds of a day hold just the instants of that day, on the first and the
last day of the calendar too, and nothing is left between the end of a day and the start of the
next.  Every date is read back from its text, with any white space around it. -/
theorem whole_days_divide_calendar :
    (∀ (date : Date) (instant : Instant), instant.nano < nanosPerSecond →
      (Instant.startOfDay date ≤ instant ∧ instant ≤ Instant.endOfDay date ↔
        instant.date = date)) ∧
    (∀ date later : Date, date ⋖ later → ∀ instant : Instant, instant.nano < nanosPerSecond →
      ¬ (Instant.endOfDay date < instant ∧ instant < Instant.startOfDay later)) ∧
    ∀ (date : Date) (before after : String), allBlank before = true → allBlank after = true →
      Date.read (before ++ date.text ++ after) = .ok date := by
  refine ⟨fun date instant hLeap => ?_, fun date later hNext instant hLeap => ?_,
    fun date before after hBefore hAfter => ?_⟩
  · exact Instant.between_bounds_iff hLeap
  · exact Instant.not_between_days hNext hLeap
  · exact Date.read_surrounded hBefore hAfter date

def firstDay : Date :=
  ⟨firstYear, 1, 1, by decide⟩

def lastDay : Date :=
  Instant.last.date

def leapDay : Date :=
  ⟨2024, 2, 29, by decide⟩

/-- The last nanosecond of the calendar belongs to its last day, a leap day is followed by the first
of March, and a signed year of six digits is read back. -/
theorem calendar_ends_divided :
    (Instant.startOfDay lastDay ≤ Instant.last ∧ Instant.last ≤ Instant.endOfDay lastDay) ∧
      ¬ (Instant.endOfDay leapDay < Instant.last ∧
        Instant.last < Instant.startOfDay ⟨2024, 3, 1, by decide⟩) ∧
      Date.read "\u3000 -262143-01-01\n" = .ok firstDay := by
  obtain ⟨hBounds, hGaps, hTexts⟩ := whole_days_divide_calendar
  have hMarch : leapDay ⋖ ⟨2024, 3, 1, by decide⟩ := Date.next?_eq_some_iff.1 (by decide)
  have hText : "\u3000 -262143-01-01\n" = "\u3000 " ++ firstDay.text ++ "\n" := by decide +kernel
  refine ⟨(hBounds lastDay Instant.last (by decide)).2 rfl, ?_, ?_⟩
  · exact hGaps _ _ hMarch Instant.last (by decide)
  · rw [hText]
    exact hTexts firstDay "\u3000 " "\n" (by decide +kernel) (by decide +kernel)

end LawnCalibration.Calendar
