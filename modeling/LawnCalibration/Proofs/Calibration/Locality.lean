import LawnCalibration.Calibration.Engine
import LawnCalibration.Proofs.Text.Span
import Mathlib.Data.List.TakeWhile

/-
Which measurements a calibration depends on.

The value of a log depends on its first and its latest measurement alone, and
that of a record on its own measurement and on the one before it.  Measurements
that come later change no value that was there, and a measurement for which the
formula fails takes no other value with it.
-/

set_option autoImplicit false

namespace LawnCalibration.Calibration

open Formula (Budget evaluate)

/-- A blank formula is no special case: it fails for any parameters. -/
private theorem evaluate_of_allBlank {formula : String} (hBlank : Text.allBlank formula = true)
    (budget : Budget) (bindings : Formula.Bindings) :
    evaluate budget formula bindings = .error .empty := by
  have hEmpty : Text.trim formula.toList = [] :=
    Text.trim_eq_nil_iff.2 (List.all_eq_true.1 hBlank)
  have hParse : Formula.parse formula = .error .empty := by
    unfold Formula.parse Formula.parseChars
    rw [hEmpty, if_pos rfl]
  unfold evaluate Formula.valueOf
  rw [hParse]

section Log

variable {budget : Budget} {formula : String}

private theorem currentCalibration_eq (measurements : List Measurement) :
    currentCalibration budget formula measurements =
      (LogParameters.ofMeasurements? measurements).bind fun parameters =>
        (evaluate budget formula parameters.bindings).toOption := by
  unfold currentCalibration
  by_cases hBlank : Text.allBlank formula = true
  · rw [if_pos hBlank]
    cases LogParameters.ofMeasurements? measurements with
    | none => rfl
    | some parameters =>
        rw [Option.bind_some, evaluate_of_allBlank hBlank]
        rfl
  · rw [if_neg hBlank]
    cases LogParameters.ofMeasurements? measurements with
    | none => rfl
    | some parameters => rfl

theorem currentCalibration_congr {measurements others : List Measurement}
    (hFirst : measurements.head? = others.head?) (hLatest : measurements.getLast? = others.getLast?) :
    currentCalibration budget formula measurements = currentCalibration budget formula others := by
  have hParameters : LogParameters.ofMeasurements? measurements =
      LogParameters.ofMeasurements? others := by
    unfold LogParameters.ofMeasurements?
    rw [hFirst, hLatest]
  rw [currentCalibration_eq, currentCalibration_eq, hParameters]

end Log

/-- The value of a measurement against the one before it, zero where the formula fails. -/
def differentialOf (budget : Budget) (formula : String) (previous current : Measurement) : Float :=
  match evaluate budget formula (DifferentialParameters.mk current previous).bindings with
  | .ok value => value
  | .error _ => 0.0

section Records

variable {budget : Budget} {formula : String}

private theorem differentialAt_eq (measurements : List Measurement) (index : Nat) :
    differentialAt budget formula measurements index =
      match measurements[index]? with
      | some current => differentialOf budget formula
          (DifferentialParameters.previousOf measurements index) current
      | none => 0.0 := by
  unfold differentialAt DifferentialParameters.at?
  cases measurements[index]? with
  | none => rfl
  | some current => rfl

private theorem differentialOf_of_allBlank (hBlank : Text.allBlank formula = true)
    (previous current : Measurement) : differentialOf budget formula previous current = 0.0 := by
  unfold differentialOf
  rw [evaluate_of_allBlank hBlank]

/-- One value for every measurement, told from it and the one before it. -/
theorem getElem?_differentialCalibrations (measurements : List Measurement) (index : Nat) :
    (differentialCalibrations budget formula measurements)[index]? =
      measurements[index]?.map (differentialOf budget formula
        (DifferentialParameters.previousOf measurements index)) := by
  unfold differentialCalibrations
  by_cases hBlank : Text.allBlank formula = true
  · rw [if_pos hBlank, List.getElem?_map]
    refine congrArg (Option.map · measurements[index]?) ?_
    funext current
    exact (differentialOf_of_allBlank hBlank _ current).symm
  · rw [if_neg hBlank, List.getElem?_map]
    by_cases hIndex : index < measurements.length
    · rw [List.getElem?_range hIndex, Option.map_some, differentialAt_eq,
        List.getElem?_eq_getElem hIndex, Option.map_some]
    · have hEnd : measurements.length ≤ index := Nat.not_lt.1 hIndex
      rw [List.getElem?_eq_none (by simpa using hEnd), List.getElem?_eq_none hEnd]
      rfl

private theorem previousOf_eq (measurements : List Measurement) {index : Nat}
    (hIndex : index ≤ measurements.length) :
    (Measurement.baseline :: measurements)[index]? =
      some (DifferentialParameters.previousOf measurements index) := by
  cases index with
  | zero => rfl
  | succ before =>
      have hBefore : before < measurements.length := hIndex
      rw [List.getElem?_cons_succ, DifferentialParameters.previousOf,
        List.getElem?_eq_getElem hBefore, Option.getD_some]

/-- The values stand between neighbours, the first after the baseline. -/
private theorem differentialCalibrations_eq (measurements : List Measurement) :
    differentialCalibrations budget formula measurements =
      List.zipWith (differentialOf budget formula) (.baseline :: measurements) measurements := by
  refine List.ext_getElem? fun index => ?_
  rw [getElem?_differentialCalibrations, List.getElem?_zipWith]
  by_cases hIndex : index < measurements.length
  · rw [previousOf_eq measurements hIndex.le, List.getElem?_eq_getElem hIndex]
    rfl
  · rw [List.getElem?_eq_none (Nat.not_lt.1 hIndex)]
    cases (Measurement.baseline :: measurements)[index]? with
    | none => rfl
    | some previous => rfl

/-- Two lists that agree on a measurement and on the one before it agree on its value, whatever
else is in them. -/
theorem differentialCalibrations_congr {measurements others : List Measurement} {index other : Nat}
    (hCurrent : measurements[index]? = others[other]?)
    (hPrevious : DifferentialParameters.previousOf measurements index =
      DifferentialParameters.previousOf others other) :
    (differentialCalibrations budget formula measurements)[index]? =
      (differentialCalibrations budget formula others)[other]? := by
  rw [getElem?_differentialCalibrations, getElem?_differentialCalibrations, hCurrent, hPrevious]

private theorem previousOf_congr {measurements others : List Measurement} {index : Nat}
    (hBefore : ∀ before, before + 1 = index → measurements[before]? = others[before]?) :
    DifferentialParameters.previousOf measurements index =
      DifferentialParameters.previousOf others index := by
  cases index with
  | zero => rfl
  | succ before =>
      rw [DifferentialParameters.previousOf, DifferentialParameters.previousOf, hBefore before rfl]

/-- What is measured later changes no value that was there. -/
theorem take_differentialCalibrations (measurements later : List Measurement) :
    (differentialCalibrations budget formula (measurements ++ later)).take measurements.length =
      differentialCalibrations budget formula measurements := by
  refine List.ext_getElem? fun index => ?_
  by_cases hIndex : index < measurements.length
  · rw [List.getElem?_take_of_lt hIndex]
    refine differentialCalibrations_congr (List.getElem?_append_left hIndex) (previousOf_congr ?_)
    intro before hBefore
    exact List.getElem?_append_left (by omega)
  · rw [List.getElem?_take, if_neg hIndex, getElem?_differentialCalibrations,
      List.getElem?_eq_none (Nat.not_lt.1 hIndex), Option.map_none]

/-- From its second measurement on, the values of the end of a list are those of the end alone. -/
theorem drop_differentialCalibrations (earlier measurements : List Measurement) :
    (differentialCalibrations budget formula (earlier ++ measurements)).drop (earlier.length + 1) =
      (differentialCalibrations budget formula measurements).drop 1 := by
  have hPlace : ∀ index, (earlier ++ measurements)[earlier.length + index]? =
      measurements[index]? := by
    intro index
    rw [List.getElem?_append_right (Nat.le_add_right _ _), Nat.add_sub_cancel_left]
  refine List.ext_getElem? fun index => ?_
  have hIndex : earlier.length + 1 + index = earlier.length + index + 1 := by omega
  rw [List.getElem?_drop, List.getElem?_drop, hIndex, Nat.add_comm 1 index]
  refine differentialCalibrations_congr (hPlace (index + 1)) ?_
  rw [DifferentialParameters.previousOf, DifferentialParameters.previousOf, hPlace index]

end Records

/-- Whatever the formula and the budget, the value of a log depends on its first and its latest
measurement alone.  The values of its records stand between neighbours, the first after a baseline
of zero, and are zero where the formula fails: further measurements change none of them, those
in front only the first of the end, and each depends on two measurements alone. -/
theorem calibrations_are_local (budget : Budget) (formula : String) :
    (∀ measurements others : List Measurement, measurements.head? = others.head? →
      measurements.getLast? = others.getLast? →
        currentCalibration budget formula measurements =
          currentCalibration budget formula others) ∧
      (∀ measurements : List Measurement, differentialCalibrations budget formula measurements =
        List.zipWith (differentialOf budget formula) (.baseline :: measurements) measurements) ∧
      (∀ measurements later : List Measurement,
        (differentialCalibrations budget formula (measurements ++ later)).take measurements.length =
          differentialCalibrations budget formula measurements) ∧
      (∀ earlier measurements : List Measurement,
        (differentialCalibrations budget formula (earlier ++ measurements)).drop
            (earlier.length + 1) =
          (differentialCalibrations budget formula measurements).drop 1) ∧
      ∀ (measurements others : List Measurement) (index : Nat),
        measurements[index]? = others[index]? →
        (∀ before, before + 1 = index → measurements[before]? = others[before]?) →
          (differentialCalibrations budget formula measurements)[index]? =
            (differentialCalibrations budget formula others)[index]? := by
  refine ⟨fun _ _ => currentCalibration_congr, differentialCalibrations_eq,
    take_differentialCalibrations, drop_differentialCalibrations, ?_⟩
  intro measurements others index hCurrent hBefore
  exact differentialCalibrations_congr hCurrent (previousOf_congr hBefore)

def spreadFormula : String :=
  "(current_amount - previous_amount) / current_area"

def spreadMeasurements : List Measurement :=
  [⟨2.0, 4⟩, ⟨6.0, 0⟩, ⟨9.0, 3⟩]

def enclosedMeasurements : List Measurement :=
  [⟨8.0, 2⟩, ⟨6.0, 0⟩, ⟨9.0, 3⟩, ⟨1.0, 1⟩]

def outerMeasurements : List Measurement :=
  [⟨2.0, 4⟩, ⟨9.0, 3⟩]

/-- The second value fails; the third is the same between others, and the log has the same value
without the second. -/
theorem spreadMeasurements_local :
    differentialCalibrations ⟨100⟩ spreadFormula spreadMeasurements = [0.5, 0.0, 1.0] ∧
      (spreadMeasurements[2]? = enclosedMeasurements[2]? ∧
        spreadMeasurements[1]? = enclosedMeasurements[1]?) ∧
      (differentialCalibrations ⟨100⟩ spreadFormula spreadMeasurements)[2]? =
        (differentialCalibrations ⟨100⟩ spreadFormula enclosedMeasurements)[2]? ∧
      (spreadMeasurements.head? = outerMeasurements.head? ∧
        spreadMeasurements.getLast? = outerMeasurements.getLast?) ∧
      currentCalibration ⟨100⟩ "current_amount - first_amount" outerMeasurements = some 7.0 ∧
      currentCalibration ⟨100⟩ "current_amount - first_amount" spreadMeasurements =
        currentCalibration ⟨100⟩ "current_amount - first_amount" outerMeasurements := by
  have hValues : differentialCalibrations ⟨100⟩ spreadFormula spreadMeasurements =
      [0.5, 0.0, 1.0] := by
    decide +kernel
  have hNeighbours : spreadMeasurements[2]? = enclosedMeasurements[2]? ∧
      spreadMeasurements[1]? = enclosedMeasurements[1]? := by
    decide +kernel
  have hEnds : spreadMeasurements.head? = outerMeasurements.head? ∧
      spreadMeasurements.getLast? = outerMeasurements.getLast? := by
    decide +kernel
  have hDifference : currentCalibration ⟨100⟩ "current_amount - first_amount" outerMeasurements =
      some 7.0 := by
    decide +kernel
  obtain ⟨-, -, -, -, hEntries⟩ := calibrations_are_local ⟨100⟩ spreadFormula
  obtain ⟨hLog, -⟩ := calibrations_are_local ⟨100⟩ "current_amount - first_amount"
  refine ⟨hValues, hNeighbours, ?_, hEnds, hDifference, ?_⟩
  · refine hEntries spreadMeasurements enclosedMeasurements 2 hNeighbours.1 fun before hBefore => ?_
    cases hBefore
    exact hNeighbours.2
  · exact hLog spreadMeasurements outerMeasurements hEnds.1 hEnds.2

end LawnCalibration.Calibration
