import LawnCalibration.Proofs.Settings.Sections
import Mathlib

/-
Which source a setting comes from.

An override wins over the file, and the file over the standard settings.  What
counts are these effective values alone: settings are loaded exactly when every
override that is set can be read and the effective values meet the rules.  A
value of the file under an override does not matter, not even to the error.
-/

set_option autoImplicit false

namespace LawnCalibration

open Text

namespace Text

private theorem le_foldl_digits (value : Nat) (digits : List Char) :
    value ≤ digits.foldl (fun value c => 10 * value + digitValue c) value := by
  induction digits generalizing value with
  | nil => exact Nat.le_refl value
  | cons c rest ih =>
      have hRest := ih (10 * value + digitValue c)
      rw [List.foldl_cons]
      omega

/-- Once a number has reached the limit, further digits do not take it back below. -/
private theorem unsignedDigits_eq_ok_iff {limit value number : Nat} {text : List Char}
    (hValue : value < limit) : unsignedDigits limit value text = .ok number ↔
      (∀ c ∈ text, c.isDigit = true) ∧
        text.foldl (fun value c => 10 * value + digitValue c) value = number ∧ number < limit := by
  induction text generalizing value with
  | nil =>
      simp only [unsignedDigits, Except.ok.injEq, List.not_mem_nil, false_implies, implies_true,
        List.foldl_nil, true_and]
      exact ⟨fun hNumber => ⟨hNumber, hNumber ▸ hValue⟩, And.left⟩
  | cons c rest ih =>
      simp only [unsignedDigits, List.forall_mem_cons, List.foldl_cons]
      by_cases hDigit : c.isDigit = true
      · by_cases hNext : 10 * value + digitValue c < limit
        · rw [if_pos hDigit, if_pos hNext, ih hNext, and_iff_right hDigit]
        · have hGrows := le_foldl_digits (10 * value + digitValue c) rest
          rw [if_pos hDigit, if_neg hNext]
          refine iff_of_false nofun ?_
          rintro ⟨-, hNumber, hLess⟩
          omega
      · rw [if_neg hDigit]
        exact iff_of_false nofun fun hAll => hDigit hAll.1.1

theorem unsigned?_eq_ok_iff {limit number : Nat} {text : List Char} (hLimit : 0 < limit) :
    unsigned? limit text = .ok number ↔
      ∃ digits, (text = digits ∨ text = '+' :: digits) ∧ digits ≠ [] ∧
        (∀ c ∈ digits, c.isDigit = true) ∧ decimalValue digits = number ∧ number < limit := by
  have hDigits (digits : List Char) : unsignedDigits limit 0 digits = .ok number ↔
      (∀ c ∈ digits, c.isDigit = true) ∧ decimalValue digits = number ∧ number < limit :=
    unsignedDigits_eq_ok_iff hLimit
  have hPlus (digits : List Char) : ¬ ∀ c ∈ '+' :: digits, c.isDigit = true := fun hAll =>
    absurd (hAll '+' List.mem_cons_self) (by decide)
  unfold unsigned?
  split
  · simp
  · refine iff_of_false nofun ?_
    rintro ⟨digits, rfl | hText, hSome, hAll, -⟩
    · exact hPlus [] hAll
    · exact hSome (List.cons.inj hText).2.symm
  · rename_i digits hSome
    rw [hDigits]
    constructor
    · rintro ⟨hAll, hNumber⟩
      exact ⟨digits, .inr rfl, fun hEmpty => hSome hEmpty, hAll, hNumber⟩
    · rintro ⟨others, rfl | hText, -, hAll, hNumber⟩
      · exact absurd hAll (hPlus digits)
      · rw [(List.cons.inj hText).2]
        exact ⟨hAll, hNumber⟩
  · rename_i hEmpty _ hNoPlus
    rw [hDigits]
    constructor
    · rintro ⟨hAll, hNumber⟩
      exact ⟨text, .inl rfl, fun hNil => hEmpty hNil, hAll, hNumber⟩
    · rintro ⟨others, rfl | hText, -, hAll, hNumber⟩
      · exact ⟨hAll, hNumber⟩
      · exact absurd hText (hNoPlus others)

end Text

namespace Settings

/-! ### Overrides -/

/-- An unsigned decimal number of 64 bits with an optional plus sign, white space around it. -/
def IsTimeout (text : String) (value : Nat) : Prop :=
  ∃ digits, (trim text.toList = digits ∨ trim text.toList = '+' :: digits) ∧ digits ≠ [] ∧
    (∀ c ∈ digits, c.isDigit = true) ∧ decimalValue digits = value ∧ value < Nat.pow 2 64

/-- One of the words for a truth value in any case, white space around it. -/
def IsFlag (text : String) (value : Bool) : Prop :=
  String.ofList ((trim text.toList).map asciiLowered) ∈
    if value then ["1", "true", "yes"] else ["0", "false", "no", ""]

theorem readTimeout_eq_ok_iff {text : String} {value : Nat} :
    readTimeout text = .ok value ↔ IsTimeout text value := by
  have hDigits := @unsigned?_eq_ok_iff (Nat.pow 2 64) value (trim text.toList) (Nat.two_pow_pos 64)
  rw [IsTimeout, ← hDigits, readTimeout]
  cases unsigned? (Nat.pow 2 64) (trim text.toList) with
  | error error => simp
  | ok found => simp

theorem readFlag_eq_ok_iff {text : String} {value : Bool} :
    readFlag text = .ok value ↔ IsFlag text value := by
  have hApart : ∀ word ∈ yesWords, word ∉ noWords := by decide
  unfold readFlag IsFlag
  generalize String.ofList ((trim text.toList).map asciiLowered) = word
  change (if word ∈ yesWords then _ else if word ∈ noWords then _ else _) = _ ↔
    word ∈ if value then yesWords else noWords
  by_cases hYes : word ∈ yesWords
  · have hNo := hApart word hYes
    cases value <;> simp [hYes, hNo]
  · by_cases hNo : word ∈ noWords
    · cases value <;> simp [hYes, hNo]
    · cases value <;> simp [hYes, hNo]

/-- The value that counts: that of the override if it is set, and else that of the file. -/
def Counts {α : Type} (Reads : String → α → Prop) (override : Option String) (file value : α) : Prop :=
  match override with
  | some text => Reads text value
  | none => value = file

structure Effective (file : Settings) (overrides : Overrides) (settings : Settings) : Prop where
  databasePath : Counts (fun text path => path = text) overrides.databasePath file.databasePath
    settings.databasePath
  evaluationTimeout : Counts IsTimeout overrides.evaluationTimeout file.evaluationTimeout
    settings.evaluationTimeout
  logFilter : settings.logFilter = file.logFilter
  logAsJson : Counts IsFlag overrides.logAsJson file.logAsJson settings.logAsJson

theorem overridden_eq_ok_iff {α : Type} {read : String → Except SettingsError α}
    {Reads : String → α → Prop} {override : Option String} {file value : α}
    (hRead : ∀ text, read text = .ok value ↔ Reads text value) :
    overridden file read override = .ok value ↔ Counts Reads override file value := by
  cases override with
  | none => simp [overridden, Counts, eq_comm]
  | some text => exact hRead text

private theorem overridden_timeout_iff {override : Option String} {file value : Nat} :
    overridden file readTimeout override = .ok value ↔ Counts IsTimeout override file value :=
  overridden_eq_ok_iff fun _ => readTimeout_eq_ok_iff

private theorem overridden_flag_iff {override : Option String} {file value : Bool} :
    overridden file readFlag override = .ok value ↔ Counts IsFlag override file value :=
  overridden_eq_ok_iff fun _ => readFlag_eq_ok_iff

private theorem counts_path_iff {override : Option String} {file value : String} :
    override.getD file = value ↔ Counts (fun text path => path = text) override file value := by
  cases override with
  | none => exact eq_comm
  | some text => exact eq_comm

theorem override_eq_ok_iff {file settings : Settings} {overrides : Overrides} :
    file.override overrides = .ok settings ↔ Effective file overrides settings := by
  constructor
  · intro hSettings
    unfold override at hSettings
    cases hTimeout : overridden file.evaluationTimeout readTimeout overrides.evaluationTimeout with
    | error error =>
        rw [hTimeout] at hSettings
        cases hSettings
    | ok timeout =>
        cases hFlag : overridden file.logAsJson readFlag overrides.logAsJson with
        | error error =>
            rw [hTimeout, hFlag] at hSettings
            cases hSettings
        | ok flag =>
            rw [hTimeout, hFlag] at hSettings
            cases hSettings
            exact ⟨counts_path_iff.1 rfl, overridden_timeout_iff.1 hTimeout, rfl,
              overridden_flag_iff.1 hFlag⟩
  · rintro ⟨hPath, hTimeout, hFilter, hFlag⟩
    rw [override, overridden_timeout_iff.2 hTimeout, overridden_flag_iff.2 hFlag]
    change Except.ok _ = _
    rw [counts_path_iff.2 hPath, ← hFilter]

/-- The settings that an override leaves alone are the same in two files. -/
structure SameBeneath (overrides : Overrides) (file other : Settings) : Prop where
  databasePath : overrides.databasePath = none → file.databasePath = other.databasePath
  evaluationTimeout : overrides.evaluationTimeout = none →
    file.evaluationTimeout = other.evaluationTimeout
  logFilter : file.logFilter = other.logFilter
  logAsJson : overrides.logAsJson = none → file.logAsJson = other.logAsJson

private theorem overridden_congr {α : Type} {read : String → Except SettingsError α}
    {override : Option String} {file other : α} (hSame : override = none → file = other) :
    overridden file read override = overridden other read override := by
  cases override with
  | none => exact congrArg Except.ok (hSame rfl)
  | some text => rfl

private theorem override_congr {overrides : Overrides} {file other : Settings}
    (hSame : SameBeneath overrides file other) :
    file.override overrides = other.override overrides := by
  have hPath : overrides.databasePath.getD file.databasePath =
      overrides.databasePath.getD other.databasePath := by
    cases hOverride : overrides.databasePath with
    | none => exact hSame.databasePath hOverride
    | some text => rfl
  rw [override, override, overridden_congr hSame.evaluationTimeout,
    overridden_congr hSame.logAsJson, hPath, hSame.logFilter]

/-- A path that is not blank, and a timeout of one to ten thousand milliseconds. -/
structure MeetsRules (settings : Settings) : Prop where
  databasePath : ∃ c ∈ settings.databasePath.toList, isBlank c = false
  evaluationTimeout : 1 ≤ settings.evaluationTimeout ∧ settings.evaluationTimeout ≤ 10000

theorem validate_eq_ok_iff {settings : Settings} : settings.validate = .ok () ↔ MeetsRules settings := by
  have hBlank : allBlank settings.databasePath = false ↔
      ∃ c ∈ settings.databasePath.toList, isBlank c = false := by
    simp [allBlank]
  unfold validate maxEvaluationTimeout
  constructor
  · intro hValid
    split at hValid
    · cases hValid
    · rename_i hPath
      split at hValid
      · cases hValid
      · rename_i hTimeout
        exact ⟨hBlank.1 (Bool.eq_false_iff.2 hPath), by omega⟩
  · rintro ⟨hPath, hTimeout⟩
    rw [hBlank.2 hPath, if_neg Bool.false_ne_true, if_neg (by omega)]

/-- The errors of an override that cannot be read and of a value against the rules. -/
def IsInvalid (error : SettingsError) : Prop :=
  ∃ key fault, error = .invalid key fault

private theorem isInvalid_of_readTimeout {text : String} {error : SettingsError}
    (hFails : readTimeout text = .error error) : IsInvalid error := by
  unfold readTimeout at hFails
  split at hFails
  · cases hFails
  · cases hFails
    exact ⟨_, _, rfl⟩

private theorem isInvalid_of_readFlag {text : String} {error : SettingsError}
    (hFails : readFlag text = .error error) : IsInvalid error := by
  unfold readFlag at hFails
  dsimp only at hFails
  split at hFails
  · cases hFails
  · split at hFails
    · cases hFails
    · cases hFails
      exact ⟨_, _, rfl⟩

private theorem isInvalid_of_overridden {α : Type} {read : String → Except SettingsError α}
    {override : Option String} {file : α} {error : SettingsError}
    (hRead : ∀ text, read text = .error error → IsInvalid error)
    (hFails : overridden file read override = .error error) : IsInvalid error := by
  cases override with
  | none => cases hFails
  | some text => exact hRead text hFails

theorem isInvalid_of_override {file : Settings} {overrides : Overrides} {error : SettingsError}
    (hFails : file.override overrides = .error error) : IsInvalid error := by
  unfold override at hFails
  cases hTimeout : overridden file.evaluationTimeout readTimeout overrides.evaluationTimeout with
  | error cause =>
      rw [hTimeout] at hFails
      cases hFails
      exact isInvalid_of_overridden (fun _ => isInvalid_of_readTimeout) hTimeout
  | ok timeout =>
      cases hFlag : overridden file.logAsJson readFlag overrides.logAsJson with
      | error cause =>
          rw [hTimeout, hFlag] at hFails
          cases hFails
          exact isInvalid_of_overridden (fun _ => isInvalid_of_readFlag) hFlag
      | ok flag =>
          rw [hTimeout, hFlag] at hFails
          cases hFails

private theorem isInvalid_of_validate {settings : Settings} {error : SettingsError}
    (hFails : settings.validate = .error error) : IsInvalid error := by
  unfold validate at hFails
  split at hFails
  · cases hFails
    exact ⟨_, _, rfl⟩
  · split at hFails
    · cases hFails
      exact ⟨_, _, rfl⟩
    · cases hFails

/-! ### Loading -/

def settle (file : Settings) (overrides : Overrides) : Except SettingsError Settings := do
  let settings ← file.override overrides
  settings.validate
  return settings

theorem settle_eq_ok_iff {file settings : Settings} {overrides : Overrides} :
    settle file overrides = .ok settings ↔ Effective file overrides settings ∧ MeetsRules settings := by
  rw [← override_eq_ok_iff, ← validate_eq_ok_iff, settle]
  cases file.override overrides with
  | error error => exact ⟨nofun, fun hBoth => nomatch hBoth.1⟩
  | ok effective =>
      cases hValid : effective.validate with
      | error error =>
          simp only [bind, Except.bind, hValid]
          refine iff_of_false nofun ?_
          rintro ⟨hSame, hRules⟩
          cases hSame
          rw [hValid] at hRules
          cases hRules
      | ok _ =>
          simp only [bind, Except.bind, hValid, pure, Except.pure, Except.ok.injEq]
          exact ⟨fun hSame => ⟨hSame, hSame ▸ hValid⟩, And.left⟩

theorem isInvalid_of_settle {file : Settings} {overrides : Overrides} {error : SettingsError}
    (hFails : settle file overrides = .error error) : IsInvalid error := by
  unfold settle at hFails
  cases hOverride : file.override overrides with
  | error cause =>
      rw [hOverride] at hFails
      cases hFails
      exact isInvalid_of_override hOverride
  | ok effective =>
      rw [hOverride] at hFails
      cases hValid : effective.validate with
      | error cause =>
          simp only [bind, Except.bind, hValid] at hFails
          cases hFails
          exact isInvalid_of_validate hValid
      | ok _ =>
          simp only [bind, Except.bind, hValid] at hFails
          cases hFails

section Loading

variable {around : Files.Surroundings} {path text : String} {document : Document} {file : Settings}

theorem load_eq_settle (hFile : around.read path = .ok text)
    (hDocument : Toml.read? text = some document) (hHolds : Holds document file)
    (overrides : Overrides) : load around path overrides = settle file overrides := by
  unfold load
  rw [hFile]
  dsimp only
  rw [(read_eq_ok_iff hDocument).2 hHolds]
  rfl

/-- Settings are loaded exactly when all overrides that are set can be read and the values that count
meet the rules, and they carry just these values; otherwise the error is that of an override or of a
rule.  What a file holds under an override makes no difference, and without overrides the settings
are those of the text alone. -/
theorem load_takes_effective_values (hFile : around.read path = .ok text)
    (hDocument : Toml.read? text = some document) (hHolds : Holds document file)
    (overrides : Overrides) :
    (∀ settings, load around path overrides = .ok settings ↔
      Effective file overrides settings ∧ MeetsRules settings) ∧
    ((¬ ∃ settings, Effective file overrides settings ∧ MeetsRules settings) →
      ∃ key fault, load around path overrides = .error (.invalid key fault)) ∧
    (∀ (otherPath otherText : String) (otherDocument : Document) (other : Settings),
      around.read otherPath = .ok otherText → Toml.read? otherText = some otherDocument →
      Holds otherDocument other → SameBeneath overrides file other →
        load around otherPath overrides = load around path overrides) ∧
    load around path .unset = ofText text := by
  have hLoad := load_eq_settle hFile hDocument hHolds
  refine ⟨fun settings => by rw [hLoad, settle_eq_ok_iff], ?_, ?_, ?_⟩
  · intro hNone
    cases hSettle : settle file overrides with
    | error error =>
        obtain ⟨key, fault, rfl⟩ := isInvalid_of_settle hSettle
        exact ⟨key, fault, by rw [hLoad, hSettle]⟩
    | ok settings => exact absurd ⟨settings, settle_eq_ok_iff.1 hSettle⟩ hNone
  · intro otherPath otherText otherDocument other hOtherFile hOtherDocument hOtherHolds hSame
    rw [load_eq_settle hOtherFile hOtherDocument hOtherHolds, hLoad, settle, settle,
      override_congr hSame]
  · rw [hLoad, ofText, (read_eq_ok_iff hDocument).2 hHolds]
    rfl

end Loading

def hastyText : String :=
  "[evaluation]\ntimeout_ms = 0\n[logging]\nfilter = \"warn\"\n"

def hastyFile : Settings :=
  { Settings.standard with
    evaluationTimeout := 0
    logFilter := "warn" }

def hastySurroundings : Files.Surroundings :=
  Files.Surroundings.usual.withFile ["srv", "lawn.toml"] hastyText

/-- Alone that file is refused.  Under a good timeout it is loaded, with the path that is standard;
under a timeout above the limit it is refused again. -/
theorem hastyFile_under_overrides :
    let patient : Overrides := { Overrides.unset with
      evaluationTimeout := some " +250\n"
      logAsJson := some "Yes" }
    let endless : Overrides := { Overrides.unset with evaluationTimeout := some "10001" }
    let settings : Settings := { hastyFile with
      evaluationTimeout := 250
      logAsJson := true }
    let document : Document := .record [("evaluation", .record [("timeout_ms", .integer 0)]),
      ("logging", .record [("filter", .text "warn")])]
    hastySurroundings.read "lawn.toml" = .ok hastyText ∧
      Toml.read? hastyText = some document ∧ Holds document hastyFile ∧
      load hastySurroundings "lawn.toml" patient = .ok settings ∧
      settings.databasePath = "qc_calibration.sqlite3" ∧
      (∃ key fault, load hastySurroundings "lawn.toml" endless = .error (.invalid key fault)) ∧
      load hastySurroundings "lawn.toml" .unset = ofText hastyText ∧
      ofText hastyText = .error (.invalid .evaluationTimeout .outsideTimeouts) := by
  intro patient endless settings document
  have hFile : hastySurroundings.read "lawn.toml" = .ok hastyText := by decide +kernel
  have hDocument : Toml.read? hastyText = some document := by cbv
  have hHolds : Holds document hastyFile := ofDocument?_eq_some_iff.1 (by decide +kernel)
  have hEffective : Effective hastyFile patient settings := override_eq_ok_iff.1 (by decide +kernel)
  have hRules : MeetsRules settings := validate_eq_ok_iff.1 (by decide +kernel)
  have hEndless : ¬ ∃ settings, Effective hastyFile endless settings ∧ MeetsRules settings := by
    rintro ⟨others, hOthers, hMeets⟩
    have hOverride : hastyFile.override endless =
        .ok { hastyFile with evaluationTimeout := 10001 } := by decide +kernel
    cases hOverride.symm.trans (override_eq_ok_iff.2 hOthers)
    exact absurd hMeets.evaluationTimeout.2 (by decide)
  have hText : ofText hastyText = .error (.invalid .evaluationTimeout .outsideTimeouts) := by
    rw [ofText, (read_eq_ok_iff hDocument).2 hHolds]
    rfl
  obtain ⟨hLoads, -⟩ := load_takes_effective_values hFile hDocument hHolds patient
  obtain ⟨-, hFails, -, hUnset⟩ := load_takes_effective_values hFile hDocument hHolds endless
  exact ⟨hFile, hDocument, hHolds, (hLoads settings).2 ⟨hEffective, hRules⟩, rfl, hFails hEndless,
    hUnset, hText⟩

end Settings
end LawnCalibration
