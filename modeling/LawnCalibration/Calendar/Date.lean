/-
Days of the proleptic Gregorian calendar.

A date carries the fact that it is a day of the calendar and that its year lies
in the supported range; year zero is the year before year one.  Dates are
ordered by year, month and day.
-/

set_option autoImplicit false

namespace LawnCalibration.Calendar

def isLeapYear (year : Int) : Bool :=
  year % 4 == 0 && (year % 100 != 0 || year % 400 == 0)

def daysInMonth (year : Int) (month : Nat) : Nat :=
  if month = 2 then (if isLeapYear year then 29 else 28)
  else if month = 4 ∨ month = 6 ∨ month = 9 ∨ month = 11 then 30
  else 31

def firstYear : Int := -262143

def lastYear : Int := 262142

def IsDay (year : Int) (month day : Nat) : Prop :=
  (firstYear ≤ year ∧ year ≤ lastYear) ∧ (1 ≤ month ∧ month ≤ 12) ∧
    (1 ≤ day ∧ day ≤ daysInMonth year month)

instance (year : Int) (month day : Nat) : Decidable (IsDay year month day) :=
  inferInstanceAs (Decidable (_ ∧ _))

@[ext] structure Date where
  year : Int
  month : Nat
  day : Nat
  isDay : IsDay year month day
deriving DecidableEq

namespace Date

def ofParts? (year : Int) (month day : Nat) : Option Date :=
  if h : IsDay year month day then some { year, month, day, isDay := h } else none

protected def Before (a b : Date) : Prop :=
  a.year < b.year ∨ (a.year = b.year ∧ (a.month < b.month ∨ (a.month = b.month ∧ a.day < b.day)))

instance : LT Date := ⟨Date.Before⟩

instance : LE Date := ⟨fun a b => a < b ∨ a = b⟩

instance (a b : Date) : Decidable (a < b) :=
  inferInstanceAs (Decidable (_ ∨ _))

instance (a b : Date) : Decidable (a ≤ b) :=
  inferInstanceAs (Decidable (_ ∨ _))

def next? (date : Date) : Option Date :=
  match ofParts? date.year date.month (date.day + 1) with
  | some later => some later
  | none =>
      match ofParts? date.year (date.month + 1) 1 with
      | some later => some later
      | none => ofParts? (date.year + 1) 1 1

def previous? (date : Date) : Option Date :=
  if date.day ≠ 1 then ofParts? date.year date.month (date.day - 1)
  else if date.month ≠ 1 then
    ofParts? date.year (date.month - 1) (daysInMonth date.year (date.month - 1))
  else ofParts? (date.year - 1) 12 31

end Date
end LawnCalibration.Calendar
