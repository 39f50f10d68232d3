import LawnCalibration.Calibration.Engine
import Mathlib.Data.List.Zip

/-
What the calibration of a log touches.

Every record gets the value that is computed for its place, and everything that
is not computed is left alone, whatever the formulas are and however they fail.
A value that is computed is finite.
-/

set_option autoImplicit false

namespace LawnCalibration

open Calibration
open Formula (Budget)

theorem Calibration.length_differentialCalibrations (budget : Budget) (formula : String)
    (measurements : List Measurement) :
    (differentialCalibrations budget formula measurements).length = measurements.length := by
  unfold differentialCalibrations
  split
  · rw [List.length_map]
  · rw [List.length_map, List.length_range]

theorem Formula.isFinite_of_evaluate {budget : Budget} {text : String} {bindings : Bindings}
    {value : Float} (hValue : evaluate budget text bindings = .ok value) :
    value.isFinite = true := by
  unfold evaluate at hValue
  split at hValue
  · cases hValue
  · split at hValue
    · cases hValue
    · split at hValue
      next hFinite =>
        cases hValue
        exact hFinite
      next => cases hValue

namespace Calibration

theorem isFinite_zero : (0.0 : Float).isFinite = true := by
  decide +kernel

theorem isFinite_currentCalibration {budget : Budget} {formula : String}
    {measurements : List Measurement} {value : Float}
    (hValue : currentCalibration budget formula measurements = some value) :
    value.isFinite = true := by
  unfold currentCalibration at hValue
  split at hValue
  · cases hValue
  · split at hValue
    next => cases hValue
    next parameters _ =>
      cases hFound : Formula.evaluate budget formula parameters.bindings with
      | error error =>
          rw [hFound] at hValue
          cases hValue
      | ok found =>
          rw [hFound] at hValue
          cases hValue
          exact Formula.isFinite_of_evaluate hFound

private theorem isFinite_differentialAt (budget : Budget) (formula : String)
    (measurements : List Measurement) (index : Nat) :
    (differentialAt budget formula measurements index).isFinite = true := by
  unfold differentialAt
  split
  · exact isFinite_zero
  · split
    next hValue => exact Formula.isFinite_of_evaluate hValue
    next => exact isFinite_zero

theorem isFinite_differentialCalibrations {budget : Budget} {formula : String}
    {measurements : List Measurement} :
    ∀ value ∈ differentialCalibrations budget formula measurements, value.isFinite = true := by
  unfold differentialCalibrations
  split
  · exact List.forall_mem_map.2 fun _ _ => isFinite_zero
  · exact List.forall_mem_map.2 fun index _ =>
      isFinite_differentialAt budget formula measurements index

end Calibration

/-- A record without what the differential formula gives. -/
def CalibrationRecord.uncalibrated (record : CalibrationRecord) : CalibrationRecord :=
  { record with calibration := 0.0 }

/-- A log without what the formulas of a lawn service give. -/
def CalibrationLog.uncalibrated (log : CalibrationLog) : CalibrationLog :=
  { log with
    currentCalibration := none
    records := log.records.map CalibrationRecord.uncalibrated }

namespace LawnService

variable (service : LawnService) (budget : Budget) (log : CalibrationLog)

def summary : Summary :=
  summarize budget service.calibrationFunction service.differentialCalibrationFunction
    (log.records.map CalibrationRecord.measurement)

theorem length_summary : (service.summary budget log).records.length = log.records.length := by
  refine (length_differentialCalibrations _ _ _).trans ?_
  rw [List.length_map]

/-- The records of a calibrated log, each beside the value for its place. -/
theorem records_calibrate :
    (service.calibrate budget log).records =
      (log.records.zip (service.summary budget log).records).map
        fun pair => { pair.1 with calibration := pair.2 } := by
  change List.zipWith _ _ _ = _
  rw [← List.map_uncurry_zip_eq_zipWith]
  rfl

theorem calibrations_calibrate :
    (service.calibrate budget log).records.map CalibrationRecord.calibration =
      (service.summary budget log).records := by
  rw [records_calibrate, List.map_map]
  exact List.map_snd_zip (Nat.le_of_eq (length_summary service budget log))

theorem uncalibrated_calibrate :
    (service.calibrate budget log).uncalibrated = log.uncalibrated := by
  have hRecords : (service.calibrate budget log).records.map CalibrationRecord.uncalibrated =
      log.records.map CalibrationRecord.uncalibrated :=
    calc (service.calibrate budget log).records.map CalibrationRecord.uncalibrated
      _ = ((log.records.zip (service.summary budget log).records).map Prod.fst).map
          CalibrationRecord.uncalibrated := by
        rw [records_calibrate, List.map_map, List.map_map]
        rfl
      _ = log.records.map CalibrationRecord.uncalibrated := by
        rw [List.map_fst_zip (Nat.le_of_eq (length_summary service budget log).symm)]
  exact congrArg (fun records => { log with currentCalibration := none, records }) hRecords

/-- What was computed before is never read. -/
theorem calibrate_uncalibrated :
    service.calibrate budget log.uncalibrated = service.calibrate budget log := by
  have hMeasurements : (log.records.map CalibrationRecord.uncalibrated).map
      CalibrationRecord.measurement = log.records.map CalibrationRecord.measurement := by
    rw [List.map_map]
    rfl
  have hSummary : service.summary budget log.uncalibrated = service.summary budget log :=
    congrArg (summarize budget service.calibrationFunction service.differentialCalibrationFunction)
      hMeasurements
  have hRecords : (service.calibrate budget log.uncalibrated).records =
      (service.calibrate budget log).records := by
    rw [records_calibrate, records_calibrate, hSummary]
    change List.map _ (List.zip (log.records.map CalibrationRecord.uncalibrated) _) = _
    rw [List.zip_map_left, List.map_map]
    rfl
  change { log with
    currentCalibration := (service.summary budget log.uncalibrated).current
    records := (service.calibrate budget log.uncalibrated).records } = service.calibrate budget log
  rw [hSummary, hRecords]
  rfl

variable {service budget log}

theorem calibrate_congr {other : CalibrationLog} (hSame : other.uncalibrated = log.uncalibrated) :
    service.calibrate budget other = service.calibrate budget log := by
  rw [← calibrate_uncalibrated service budget other, hSame, calibrate_uncalibrated]

/-- The values of a calibrated log are those that the two formulas give for its measurements, each
of them finite, and nothing else of the log has changed.  They depend neither on what was computed
before, so that a second calibration changes nothing, nor on the formula of the other value. -/
theorem calibrate_sets_values_only (service : LawnService) (budget : Budget)
    (log : CalibrationLog) :
    let calibrated := service.calibrate budget log
    let measurements := log.records.map CalibrationRecord.measurement
    calibrated.uncalibrated = log.uncalibrated ∧
      calibrated.currentCalibration =
        currentCalibration budget service.calibrationFunction measurements ∧
      calibrated.records.map CalibrationRecord.calibration =
        differentialCalibrations budget service.differentialCalibrationFunction measurements ∧
      (∀ other : CalibrationLog, other.uncalibrated = log.uncalibrated →
        service.calibrate budget other = calibrated) ∧
      service.calibrate budget calibrated = calibrated ∧
      (∀ value, calibrated.currentCalibration = some value → value.isFinite = true) ∧
      (∀ record ∈ calibrated.records, record.calibration.isFinite = true) ∧
      ∀ other : LawnService,
        (other.calibrationFunction = service.calibrationFunction →
          (other.calibrate budget log).currentCalibration = calibrated.currentCalibration) ∧
        (other.differentialCalibrationFunction = service.differentialCalibrationFunction →
          (other.calibrate budget log).records = calibrated.records) := by
  intro calibrated measurements
  have hKept : calibrated.uncalibrated = log.uncalibrated :=
    uncalibrated_calibrate service budget log
  have hCalibrations : calibrated.records.map CalibrationRecord.calibration =
      differentialCalibrations budget service.differentialCalibrationFunction measurements :=
    calibrations_calibrate service budget log
  refine ⟨hKept, rfl, hCalibrations, fun _ => calibrate_congr, calibrate_congr hKept,
    fun _ => isFinite_currentCalibration, ?_, fun other => ⟨?_, ?_⟩⟩
  · intro record hRecord
    have hValue := List.mem_map_of_mem (f := CalibrationRecord.calibration) hRecord
    rw [hCalibrations] at hValue
    exact isFinite_differentialCalibrations _ hValue
  · intro hFormula
    change currentCalibration budget other.calibrationFunction measurements = _
    rw [hFormula]
    rfl
  · intro hFormula
    have hRecords : (other.summary budget log).records = (service.summary budget log).records :=
      congrArg (fun formula => differentialCalibrations budget formula measurements) hFormula
    rw [records_calibrate, records_calibrate, hRecords]

end LawnService

/-- The rate of a log by its last record, and of each record by what was added since the one
before it. -/
def spreadService : LawnService :=
  let morning := Calendar.Instant.startOfDay ⟨2025, 6, 1, by decide⟩
  ⟨⟨"FERT", "Fertilizer", ⟨1⟩, 3.5, "kg", "g", "current_amount / current_area",
    "(current_amount - previous_amount) / current_area"⟩, ⟨2⟩, morning, morning⟩

/-- A log of three records, the second spread on no area, with values that were left over. -/
def leftoverLog (current : Option Float) (first second third : Float) : CalibrationLog :=
  let morning := Calendar.Instant.startOfDay ⟨2025, 6, 1, by decide⟩
  ⟨⟨3⟩, ⟨9⟩, ⟨2⟩, morning, morning, none, current,
    [⟨⟨4⟩, ⟨3⟩, 2.0, "g", 4, morning, morning, first⟩,
      ⟨⟨5⟩, ⟨3⟩, 6.0, "g", 0, morning, morning, second⟩,
      ⟨⟨6⟩, ⟨3⟩, 9.0, "g", 3, morning, morning, third⟩]⟩

def outdatedLog : CalibrationLog :=
  leftoverLog (some (0.0 / 0.0)) 7.0 (1.0 / 0.0) (0.0 / 0.0)

/-- The second record fails and is left at zero; neither the other records nor the log are. -/
theorem outdatedLog_values_replaced :
    outdatedLog.uncalibrated = (leftoverLog none 1.0 1.0 1.0).uncalibrated ∧
      spreadService.calibrate ⟨100⟩ outdatedLog =
        spreadService.calibrate ⟨100⟩ (leftoverLog none 1.0 1.0 1.0) ∧
      spreadService.calibrate ⟨100⟩ (leftoverLog none 1.0 1.0 1.0) =
        leftoverLog (some 3.0) 0.5 0.0 1.0 := by
  have hSame : outdatedLog.uncalibrated = (leftoverLog none 1.0 1.0 1.0).uncalibrated := by
    decide +kernel
  have hValues : spreadService.calibrate ⟨100⟩ (leftoverLog none 1.0 1.0 1.0) =
      leftoverLog (some 3.0) 0.5 0.0 1.0 := by
    decide +kernel
  obtain ⟨-, -, -, hAlike, -⟩ :=
    LawnService.calibrate_sets_values_only spreadService ⟨100⟩ (leftoverLog none 1.0 1.0 1.0)
  exact ⟨hSame, hAlike outdatedLog hSame, hValues⟩

end LawnCalibration
