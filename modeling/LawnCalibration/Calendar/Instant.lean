import LawnCalibration.Calendar.Date

/-
Instants of coordinated universal time, to the nanosecond.

An instant is a day, a second of that day and a nanosecond.  A leap second is
the second half of the range of nanoseconds: it prolongs the last second of a
minute and is the only second that may be longer than a thousand million
nanoseconds.
-/

set_option autoImplicit false

namespace LawnCalibration.Calendar

def secondsPerDay : Nat := 86400

def nanosPerSecond : Nat := 1000000000

@[ext] structure Instant where
  date : Date
  second : Nat
  nano : Nat
  second_lt : second < secondsPerDay
  nano_lt : nano < 2 * nanosPerSecond
  leap : nanosPerSecond ≤ nano → second % 60 = 59
deriving DecidableEq

namespace Instant

/-- An instant by the clock of its day.  Second sixty is the leap second of any minute. -/
def ofClock? (date : Date) (hour minute second nano : Nat) : Option Instant :=
  if h : hour < 24 ∧ minute < 60 ∧ second ≤ 60 ∧ nano < nanosPerSecond then
    if hLeap : second = 60 then
      some {
        date := date
        second := 3600 * hour + 60 * minute + 59
        nano := nano + nanosPerSecond
        second_lt := by simp only [secondsPerDay]; omega
        nano_lt := by omega
        leap := by intro; omega }
    else
      some {
        date := date
        second := 3600 * hour + 60 * minute + second
        nano := nano
        second_lt := by simp only [secondsPerDay]; omega
        nano_lt := by omega
        leap := by intro; omega }
  else none

def hour (instant : Instant) : Nat :=
  instant.second / 3600

def minute (instant : Instant) : Nat :=
  instant.second / 60 % 60

def clockSecond (instant : Instant) : Nat :=
  instant.second % 60 + instant.nano / nanosPerSecond

/-- The nanoseconds since the clock last showed a new second. -/
def fraction (instant : Instant) : Nat :=
  instant.nano % nanosPerSecond

protected def Before (a b : Instant) : Prop :=
  a.date < b.date ∨
    (a.date = b.date ∧ (a.second < b.second ∨ (a.second = b.second ∧ a.nano < b.nano)))

instance : LT Instant := ⟨Instant.Before⟩

instance : LE Instant := ⟨fun a b => a < b ∨ a = b⟩

instance (a b : Instant) : Decidable (a < b) :=
  inferInstanceAs (Decidable (_ ∨ _))

instance (a b : Instant) : Decidable (a ≤ b) :=
  inferInstanceAs (Decidable (_ ∨ _))

def startOfDay (date : Date) : Instant where
  date := date
  second := 0
  nano := 0
  second_lt := by decide
  nano_lt := by decide
  leap := fun hLeap => absurd hLeap (by decide)

/-- A day later by the clock, unless the calendar ends before.  A leap second is left for the
second that it prolongs. -/
def dayLater? (instant : Instant) : Option Instant :=
  have hFraction : instant.fraction < nanosPerSecond := Nat.mod_lt _ (by decide)
  instant.date.next?.map fun date =>
    { date := date
      second := instant.second
      nano := instant.fraction
      second_lt := instant.second_lt
      nano_lt := by omega
      leap := fun hLeap => absurd hFraction (Nat.not_lt.2 hLeap) }

def nanosecondEarlier? (instant : Instant) : Option Instant :=
  have hSecond := instant.second_lt
  have hNano := instant.nano_lt
  if 0 < instant.nano then
    some { instant with
      nano := instant.nano - 1
      nano_lt := by omega
      leap := fun hLeap => instant.leap (by omega) }
  else if 0 < instant.second then
    some {
      date := instant.date
      second := instant.second - 1
      nano := nanosPerSecond - 1
      second_lt := by omega
      nano_lt := by decide
      leap := fun hLeap => absurd hLeap (by decide) }
  else
    instant.date.previous?.map fun date =>
      { date := date
        second := secondsPerDay - 1
        nano := nanosPerSecond - 1
        second_lt := by decide
        nano_lt := by decide
        leap := fun hLeap => absurd hLeap (by decide) }

/-- The last nanosecond of the calendar, leap seconds aside. -/
def last : Instant where
  date := ⟨lastYear, 12, 31, by decide⟩
  second := secondsPerDay - 1
  nano := nanosPerSecond - 1
  second_lt := by decide
  nano_lt := by decide
  leap := fun hLeap => absurd hLeap (by decide)

/-- The nanosecond before the next midnight.  Where the calendar ends before that, it is the last
one of the calendar. -/
def endOfDay (date : Date) : Instant :=
  ((startOfDay date).dayLater?.bind nanosecondEarlier?).getD last

/-- Minutes by which a local clock is ahead, less than a day either way. -/
structure Offset where
  minutes : Int
  lower : -1440 < minutes
  upper : minutes < 1440
deriving DecidableEq

def Offset.ofMinutes? (minutes : Int) : Option Offset :=
  if h : -1440 < minutes ∧ minutes < 1440 then
    some { minutes, lower := h.1, upper := h.2 }
  else none

/-- The instant at which a local clock shows what `local` shows, unless it lies
outside the calendar. -/
def ofLocal? (shown : Instant) (offset : Offset) : Option Instant :=
  let total : Int := shown.second - 60 * offset.minutes
  have hBound := shown.second_lt
  have hLower := offset.lower
  have hUpper := offset.upper
  if hEarly : total < 0 then
    shown.date.previous?.map fun date =>
      { date := date
        second := (total + 86400).toNat
        nano := shown.nano
        second_lt := by simp only [secondsPerDay] at *; omega
        nano_lt := shown.nano_lt
        leap := by intro h; have := shown.leap h; simp only [secondsPerDay] at *; omega }
  else if hLate : 86400 ≤ total then
    shown.date.next?.map fun date =>
      { date := date
        second := (total - 86400).toNat
        nano := shown.nano
        second_lt := by simp only [secondsPerDay] at *; omega
        nano_lt := shown.nano_lt
        leap := by intro h; have := shown.leap h; simp only [secondsPerDay] at *; omega }
  else
    some {
      date := shown.date
      second := total.toNat
      nano := shown.nano
      second_lt := by simp only [secondsPerDay] at *; omega
      nano_lt := shown.nano_lt
      leap := by intro h; have := shown.leap h; simp only [secondsPerDay] at *; omega }

end Instant
end LawnCalibration.Calendar
