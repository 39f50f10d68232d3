import LawnCalibration.Calibration.Measurement
import LawnCalibration.Entity.CalibrationLog
import LawnCalibration.Entity.LawnService
import LawnCalibration.Text.Blank

/-
The calibration of a log and of its records.

A formula that is blank or that fails yields no value: the log then has no
current calibration and the record a calibration of zero.  One failing record
does not touch the others, and the two formulas do not touch each other.
-/

set_option autoImplicit false

namespace LawnCalibration.Calibration

open Formula (Budget)

def currentCalibration (budget : Budget) (formula : String) (measurements : List Measurement) :
    Option Float :=
  if Text.allBlank formula then none
  else
    match LogParameters.ofMeasurements? measurements with
    | none => none
    | some parameters => (Formula.evaluate budget formula parameters.bindings).toOption

/-- The value of the measurement at `index` against the one before it, zero where there is none. -/
def differentialAt (budget : Budget) (formula : String) (measurements : List Measurement)
    (index : Nat) : Float :=
  match DifferentialParameters.at? measurements index with
  | none => 0.0
  | some parameters =>
      match Formula.evaluate budget formula parameters.bindings with
      | .ok value => value
      | .error _ => 0.0

def differentialCalibrations (budget : Budget) (formula : String)
    (measurements : List Measurement) : List Float :=
  if Text.allBlank formula then measurements.map fun _ => 0.0
  else (List.range measurements.length).map (differentialAt budget formula measurements)

structure Summary where
  current : Option Float
  records : List Float
deriving DecidableEq, Repr

def summarize (budget : Budget) (formula differentialFormula : String)
    (measurements : List Measurement) : Summary where
  current := currentCalibration budget formula measurements
  records := differentialCalibrations budget differentialFormula measurements

end LawnCalibration.Calibration

namespace LawnCalibration

open Calibration Formula

def CalibrationRecord.measurement (record : CalibrationRecord) : Measurement where
  amount := record.measurementValue
  area := record.measurementArea

/-- Computes the calibrations of a log and of its records by the formulas of a
lawn service, whatever was computed before. -/
def LawnService.calibrate (service : LawnService) (budget : Budget) (log : CalibrationLog) :
    CalibrationLog :=
  let summary := summarize budget service.calibrationFunction
    service.differentialCalibrationFunction (log.records.map CalibrationRecord.measurement)
  { log with
    currentCalibration := summary.current
    records := log.records.zipWith
      (fun record value => { record with calibration := value }) summary.records }

end LawnCalibration
