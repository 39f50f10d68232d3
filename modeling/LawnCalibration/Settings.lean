import LawnCalibration.Files
import LawnCalibration.Text.Digits
import LawnCalibration.Text.LetterCase
import LawnCalibration.Text.Quoted

/-
Settings, their overrides from the environment, and the rules they have to meet.

An override replaces a setting before any rule is looked at, so a bad setting
under a good override does no harm.
-/

set_option autoImplicit false

namespace LawnCalibration

open Text

structure Settings where
  databasePath : String
  /-- milliseconds for one evaluation -/
  evaluationTimeout : Nat
  logFilter : String
  logAsJson : Bool
deriving DecidableEq, Repr

def Settings.standard : Settings where
  databasePath := "qc_calibration.sqlite3"
  evaluationTimeout := 100
  logFilter := "qc_calibration=info"
  logAsJson := false

inductive SettingsKey where
  | databasePath
  | evaluationTimeout
  | timeoutOverride
  | logJsonOverride
deriving DecidableEq, Repr

def SettingsKey.label : SettingsKey → String
  | .databasePath => "database.path"
  | .evaluationTimeout => "evaluation.timeout_ms"
  | .timeoutOverride => "QC_EVAL_TIMEOUT_MS"
  | .logJsonOverride => "QC_LOG_JSON"

def maxEvaluationTimeout : Nat := 10000

inductive SettingsFault where
  | blank
  | outsideTimeouts
  | notUnsigned (error : UnsignedError)
  | notBoolean (text : String)
deriving DecidableEq, Repr

def SettingsFault.message : SettingsFault → String
  | .blank => "must not be empty"
  | .outsideTimeouts => "must be between 1 and " ++ decimalText maxEvaluationTimeout
  | .notUnsigned error => error.message
  | .notBoolean text => "expected a boolean, got " ++ Quoted.encode text

inductive SettingsError where
  | unreadable (path : String) (fault : Files.Fault)
  | malformed
  | invalid (key : SettingsKey) (fault : SettingsFault)
deriving DecidableEq, Repr

def SettingsError.message : SettingsError → String
  | .unreadable path fault => "failed to read config " ++ path ++ ": " ++ fault.message
  | .malformed => "invalid config"
  | .invalid key fault => "invalid value for " ++ key.label ++ ": " ++ fault.message

namespace Settings

/-- The path is judged before the timeout. -/
def validate (settings : Settings) : Except SettingsError Unit :=
  if allBlank settings.databasePath then .error (.invalid .databasePath .blank)
  else if settings.evaluationTimeout = 0 ∨ maxEvaluationTimeout < settings.evaluationTimeout then
    .error (.invalid .evaluationTimeout .outsideTimeouts)
  else .ok ()

structure Overrides where
  databasePath : Option String
  evaluationTimeout : Option String
  logAsJson : Option String
deriving DecidableEq, Repr

def Overrides.unset : Overrides where
  databasePath := none
  evaluationTimeout := none
  logAsJson := none

def readTimeout (text : String) : Except SettingsError Nat :=
  match unsigned? (Nat.pow 2 64) (trim text.toList) with
  | .ok value => .ok value
  | .error error => .error (.invalid .timeoutOverride (.notUnsigned error))

def yesWords : List String := ["1", "true", "yes"]

def noWords : List String := ["0", "false", "no", ""]

def readFlag (text : String) : Except SettingsError Bool :=
  let word := String.ofList ((trim text.toList).map asciiLowered)
  if word ∈ yesWords then .ok true
  else if word ∈ noWords then .ok false
  else .error (.invalid .logJsonOverride (.notBoolean word))

def overridden {α : Type} (current : α) (read : String → Except SettingsError α) :
    Option String → Except SettingsError α
  | none => .ok current
  | some text => read text

def override (settings : Settings) (overrides : Overrides) : Except SettingsError Settings := do
  let evaluationTimeout ←
    overridden settings.evaluationTimeout readTimeout overrides.evaluationTimeout
  let logAsJson ← overridden settings.logAsJson readFlag overrides.logAsJson
  return { settings with
    databasePath := overrides.databasePath.getD settings.databasePath
    evaluationTimeout
    logAsJson }

end Settings
end LawnCalibration
