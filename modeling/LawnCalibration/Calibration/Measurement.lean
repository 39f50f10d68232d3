import LawnCalibration.Formula.Evaluation

/-
Measurements and the parameters that formulas see of them.

The log formula sees the first and the latest measurement of a log.  The
differential formula sees one measurement and the one before it; the first of a
log is measured against a baseline of zero.
-/

set_option autoImplicit false

namespace LawnCalibration.Calibration

open Formula (Bindings)

/-- The amount that was measured and the area it was spread on. -/
structure Measurement where
  amount : Float
  area : UInt32
deriving DecidableEq, Repr

/-- What the first measurement of a log is compared with. -/
def Measurement.baseline : Measurement :=
  { amount := 0.0, area := 0 }

structure LogParameters where
  first : Measurement
  current : Measurement
deriving DecidableEq, Repr

namespace LogParameters

def names : List String :=
  ["first_amount", "current_amount", "first_area", "current_area"]

def ofMeasurements? (measurements : List Measurement) : Option LogParameters :=
  match measurements.head?, measurements.getLast? with
  | some first, some current => some { first, current }
  | _, _ => none

def bindings (parameters : LogParameters) : Bindings := fun name =>
  if name = "first_amount" then some parameters.first.amount
  else if name = "current_amount" then some parameters.current.amount
  else if name = "first_area" then some parameters.first.area.toFloat
  else if name = "current_area" then some parameters.current.area.toFloat
  else none

end LogParameters

structure DifferentialParameters where
  current : Measurement
  previous : Measurement
deriving DecidableEq, Repr

namespace DifferentialParameters

def names : List String :=
  ["current_amount", "current_area", "previous_amount", "previous_area"]

def previousOf (measurements : List Measurement) : Nat → Measurement
  | 0 => .baseline
  | index + 1 => measurements[index]?.getD .baseline

/-- The parameters at one measurement of a log; there are none past its end. -/
def at? (measurements : List Measurement) (index : Nat) : Option DifferentialParameters :=
  measurements[index]?.map fun current =>
    { current, previous := previousOf measurements index }

def bindings (parameters : DifferentialParameters) : Bindings := fun name =>
  if name = "current_amount" then some parameters.current.amount
  else if name = "current_area" then some parameters.current.area.toFloat
  else if name = "previous_amount" then some parameters.previous.amount
  else if name = "previous_area" then some parameters.previous.area.toFloat
  else none

end DifferentialParameters

/-- The names that a formula may use: those of the differential or of the log formula. -/
def supportedParameters (differential : Bool) : List String :=
  if differential then DifferentialParameters.names else LogParameters.names

def bound (names : List String) (bindings : Bindings) : List (String × Float) :=
  names.filterMap fun name => (bindings name).map (name, ·)

end LawnCalibration.Calibration
