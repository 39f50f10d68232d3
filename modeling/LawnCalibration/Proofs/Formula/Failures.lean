import LawnCalibration.Calibration.Measurement
import Mathlib.Tactic.Common

/-
Why a formula fails, and what a check can rule out before it is evaluated.

A text that is no formula fails while it is read, and nothing else fails in that
way.  A tree fails for want of a parameter only where that parameter stands in
it; every other failure is that of an operator.  So a formula whose parameters
are all available fails for its numbers and their types alone.
-/

set_option autoImplicit false

namespace LawnCalibration.Formula

namespace Expr

theorem mem_addVariables_iff {expr : Expr} {names : List String} {name : String} :
    name ∈ expr.addVariables names ↔ name ∈ names ∨ name ∈ expr.occurrences := by
  induction expr generalizing names with
  | number value => simp [addVariables, occurrences]
  | «variable» other =>
      by_cases hListed : other ∈ names
      · simp only [addVariables, if_pos hListed, occurrences, List.mem_singleton]
        constructor
        · exact Or.inl
        · rintro (hName | rfl)
          · exact hName
          · exact hListed
      · simp [addVariables, if_neg hListed, occurrences]
  | unary op operand ih => simp only [addVariables, occurrences, ih]
  | binary op left right ihLeft ihRight =>
      simp only [addVariables, occurrences, ihLeft, ihRight, List.mem_append, or_assoc]
  | ternary condition yes no ihCondition ihYes ihNo =>
      simp only [addVariables, occurrences, ihCondition, ihYes, ihNo, List.mem_append, or_assoc]

/-- The names of a formula are those that stand somewhere in its tree. -/
theorem mem_names_iff {expr : Expr} {name : String} :
    name ∈ expr.names ↔ name ∈ expr.occurrences := by
  rw [names, mem_addVariables_iff]
  exact or_iff_right List.not_mem_nil

end Expr

/-- An operator fails because there is no result or because an operand is of another type than the
one that is expected. -/
inductive OperatorFailure : FormulaError → Prop
  | divisionByZero : OperatorFailure .divisionByZero
  | typeMismatch {expected found : ValueType} (hOther : expected ≠ found) :
      OperatorFailure (.typeMismatch expected found)

theorem Value.failure_of_asNumber {value : Value} {error : FormulaError}
    (hFails : value.asNumber = .error error) : OperatorFailure error := by
  cases value with
  | number x => cases hFails
  | boolean b =>
      cases hFails
      exact .typeMismatch nofun

theorem Value.failure_of_asBoolean {value : Value} {error : FormulaError}
    (hFails : value.asBoolean = .error error) : OperatorFailure error := by
  cases value with
  | number x =>
      cases hFails
      exact .typeMismatch nofun
  | boolean b => cases hFails

/-- Two values are compared unless their types differ. -/
theorem Value.failure_of_equal {left right : Value} {error : FormulaError}
    (hFails : left.equal right = .error error) : OperatorFailure error := by
  cases left with
  | number x =>
      cases right with
      | number y => cases hFails
      | boolean b =>
          cases hFails
          exact .typeMismatch nofun
  | boolean a =>
      cases right with
      | number y =>
          cases hFails
          exact .typeMismatch nofun
      | boolean b => cases hFails

private theorem map_eq_error_iff {α β : Type} {outcome : Except FormulaError α} {f : α → β}
    {error : FormulaError} : outcome.map f = .error error ↔ outcome = .error error := by
  cases outcome with
  | error other =>
      constructor
      · exact fun hFails => congrArg Except.error (Except.error.inj hFails)
      · exact fun hFails => congrArg Except.error (Except.error.inj hFails)
  | ok value => exact ⟨nofun, nofun⟩

theorem UnaryOp.failure_of_apply {op : UnaryOp} {operand : Value} {error : FormulaError}
    (hFails : op.apply operand = .error error) : OperatorFailure error := by
  cases op with
  | neg => exact Value.failure_of_asNumber (map_eq_error_iff.1 hFails)
  | not => exact Value.failure_of_asBoolean (map_eq_error_iff.1 hFails)

private theorem failure_of_onNumbers {left right : Value}
    {f : Float → Float → Except FormulaError Value}
    {error : FormulaError} (hResult : ∀ x y, f x y = .error error → OperatorFailure error)
    (hFails : onNumbers left right f = .error error) : OperatorFailure error := by
  unfold onNumbers at hFails
  split at hFails
  · rename_i cause hLeft
    cases hFails
    exact Value.failure_of_asNumber hLeft
  · split at hFails
    · rename_i cause hRight
      cases hFails
      exact Value.failure_of_asNumber hRight
    · exact hResult _ _ hFails

theorem BinaryOp.failure_of_apply {op : BinaryOp} {left right : Value} {error : FormulaError}
    (hFails : op.apply left right = .error error) : OperatorFailure error := by
  cases op with
  | div =>
      refine failure_of_onNumbers ?_ hFails
      intro x y hDivision
      split at hDivision
      · cases hDivision
        exact .divisionByZero
      · cases hDivision
  | eq => exact Value.failure_of_equal (map_eq_error_iff.1 hFails)
  | neq => exact Value.failure_of_equal (map_eq_error_iff.1 hFails)
  | and | or =>
      simp only [apply] at hFails
      split at hFails
      · rename_i cause hLeft
        cases hFails
        exact Value.failure_of_asBoolean hLeft
      · cases hFails
      · exact Value.failure_of_asBoolean (map_eq_error_iff.1 hFails)
  | _ => exact failure_of_onNumbers (fun x y hNever => by cases hNever) hFails

/-! ### Failures of trees -/

inductive Expr.Failure (bindings : Bindings) (expr : Expr) : FormulaError → Prop
  | unbound {name : String} (hStands : name ∈ expr.occurrences) (hUnbound : bindings name = none) :
      Failure bindings expr (.unknownParameter name)
  | operator {error : FormulaError} (hOperator : OperatorFailure error) :
      Failure bindings expr error

namespace Expr

variable {bindings : Bindings} {expr part : Expr} {error : FormulaError}

/-- A tree fails as its parts do. -/
theorem Failure.widen (hFailure : part.Failure bindings error)
    (hPart : ∀ name ∈ part.occurrences, name ∈ expr.occurrences) :
    expr.Failure bindings error := by
  cases hFailure with
  | unbound hStands hUnbound => exact .unbound (hPart _ hStands) hUnbound
  | operator hOperator => exact .operator hOperator

/-- By induction on the tree: whichever of its parts are evaluated, a failure is that of a part or
of the operator that joins them. -/
theorem failure_of_evaluate (hFails : expr.evaluate bindings = .error error) :
    expr.Failure bindings error := by
  induction expr with
  | number x => cases hFails
  | «variable» name =>
      simp only [evaluate] at hFails
      split at hFails
      · cases hFails
      · rename_i hUnbound
        cases hFails
        exact .unbound (List.mem_singleton_self name) hUnbound
  | unary op operand ih =>
      simp only [evaluate] at hFails
      split at hFails
      · rename_i cause hOperand
        cases hFails
        exact (ih hOperand).widen fun name hName => hName
      · exact .operator (UnaryOp.failure_of_apply hFails)
  | binary op left right ihLeft ihRight =>
      simp only [evaluate] at hFails
      split at hFails
      · rename_i cause hLeft
        cases hFails
        exact (ihLeft hLeft).widen fun name hName => List.mem_append_left _ hName
      · split at hFails
        · cases hFails
        · split at hFails
          · rename_i cause hRight
            cases hFails
            exact (ihRight hRight).widen fun name hName => List.mem_append_right _ hName
          · exact .operator (BinaryOp.failure_of_apply hFails)
  | ternary condition yes no ihCondition ihYes ihNo =>
      have hFirst : ∀ name ∈ condition.occurrences, name ∈ (ternary condition yes no).occurrences :=
        fun name hName => List.mem_append_left _ (List.mem_append_left _ hName)
      have hSecond : ∀ name ∈ yes.occurrences, name ∈ (ternary condition yes no).occurrences :=
        fun name hName => List.mem_append_left _ (List.mem_append_right _ hName)
      have hThird : ∀ name ∈ no.occurrences, name ∈ (ternary condition yes no).occurrences :=
        fun name hName => List.mem_append_right _ hName
      simp only [evaluate] at hFails
      split at hFails
      · rename_i cause hCondition
        cases hFails
        exact (ihCondition hCondition).widen hFirst
      · split at hFails
        · rename_i cause hType
          cases hFails
          exact .operator (Value.failure_of_asBoolean hType)
        · exact (ihYes hFails).widen hSecond
        · exact (ihNo hFails).widen hThird

end Expr

/-- What fails while a text is read is a failure of its syntax. -/
theorem kind_of_parse_error {text : String} {error : FormulaError}
    (hParse : parse text = .error error) : error.kind = .syntactic := by
  unfold parse parseChars at hParse
  split at hParse
  · cases hParse
    rfl
  · split at hParse
    · cases hParse
      rfl
    · split at hParse
      · cases hParse
        rfl
      · split at hParse
        · cases hParse
          rfl
        · split at hParse
          · cases hParse
          · cases hParse
            rfl

theorem validate_eq_error_iff {text : String} {error : FormulaError} :
    validate text = .error error ↔ parse text = .error error :=
  map_eq_error_iff

/-- A formula whose parameters are available is read and mentions nothing else. -/
theorem validateParameters_eq_ok_iff {text : String} {available : List String} :
    validateParameters text available = .ok () ↔
      ∃ expr, parse text = .ok expr ∧ ∀ name ∈ expr.occurrences, name ∈ available := by
  unfold validateParameters
  cases parse text with
  | error error => simp
  | ok expr =>
      simp only [Except.ok.injEq, exists_eq_left']
      constructor
      · intro hValid name hStands
        split at hValid
        · cases hValid
        · rename_i hNone
          have hListed := List.find?_eq_none.1 hNone name (Expr.mem_names_iff.2 hStands)
          simpa using hListed
      · intro hAll
        have hNone : expr.names.find? (fun name => !available.contains name) = none := by
          refine List.find?_eq_none.2 fun name hName => ?_
          simpa using hAll name (Expr.mem_names_iff.1 hName)
        rw [hNone]

section Texts

variable {budget : Budget} {text : String} {bindings : Bindings} {expr : Expr}
  {error : FormulaError}

private theorem evaluate_of_parse_error (hParse : parse text = .error error) :
    evaluate budget text bindings = .error error := by
  simp only [evaluate, valueOf, hParse]

/-- Once a formula has been read and as long as there is time, it fails as its tree does or because
its value is no finite number. -/
theorem failure_of_evaluate (hTime : budget.isSpent = false) (hParse : parse text = .ok expr)
    (hFails : evaluate budget text bindings = .error error) :
    expr.Failure bindings error ∨ error = .notFinite := by
  simp only [evaluate, valueOf, hParse, Expr.evaluateWithin, hTime, Bool.false_eq_true, if_false]
    at hFails
  split at hFails
  · rename_i cause hTree
    cases hFails
    exact .inl (Expr.failure_of_evaluate hTree)
  · split at hFails
    · rename_i cause hNumber
      cases hFails
      exact .inl (.operator (Value.failure_of_asNumber hNumber))
    · split at hFails
      · cases hFails
      · cases hFails
        exact .inr rfl

theorem kind_of_evaluate_error (hTime : budget.isSpent = false) (hParse : parse text = .ok expr)
    (hFails : evaluate budget text bindings = .error error) : error.kind ≠ .syntactic := by
  rcases failure_of_evaluate hTime hParse hFails with hTree | rfl
  · cases hTree with
    | unbound hStands hUnbound => exact nofun
    | operator hOperator => cases hOperator <;> exact nofun
  · exact nofun

/-- A formula that was checked against the parameters that are bound fails for its values alone. -/
theorem failure_of_checked {available : List String} (hTime : budget.isSpent = false)
    (hChecked : validateParameters text available = .ok ())
    (hBound : ∀ name ∈ available, (bindings name).isSome = true)
    (hFails : evaluate budget text bindings = .error error) :
    OperatorFailure error ∨ error = .notFinite := by
  obtain ⟨expr, hParse, hAvailable⟩ := validateParameters_eq_ok_iff.1 hChecked
  rcases failure_of_evaluate hTime hParse hFails with hTree | hNumber
  · cases hTree with
    | unbound hStands hUnbound =>
        have hSome := hBound _ (hAvailable _ hStands)
        rw [hUnbound] at hSome
        cases hSome
    | operator hOperator => exact .inl hOperator
  · exact .inr hNumber

end Texts
end LawnCalibration.Formula

/-! ### Parameters of measurements -/

namespace LawnCalibration.Calibration

open Formula

theorem LogParameters.bindings_isSome (parameters : LogParameters) :
    ∀ name ∈ supportedParameters false, (parameters.bindings name).isSome = true := by
  simp [supportedParameters, names, bindings]

theorem DifferentialParameters.bindings_isSome (parameters : DifferentialParameters) :
    ∀ name ∈ supportedParameters true, (parameters.bindings name).isSome = true := by
  simp [supportedParameters, names, bindings]

theorem LogParameters.exists_ofMeasurements {measurements : List Measurement}
    (hSome : measurements ≠ []) : ∃ parameters, ofMeasurements? measurements = some parameters := by
  simp only [ofMeasurements?, List.head?_eq_some_head hSome, List.getLast?_eq_some_getLast hSome]
  exact ⟨_, rfl⟩

theorem DifferentialParameters.exists_at {measurements : List Measurement} {index : Nat}
    (hIndex : index < measurements.length) :
    ∃ parameters, at? measurements index = some parameters := by
  simp only [at?, List.getElem?_eq_getElem hIndex]
  exact ⟨_, rfl⟩

/-- As long as there is time, a text is evaluated with a syntactic failure just where it is refused
as a formula, and with the same failure.  A formula that was checked against some names fails
neither so nor for want of a parameter wherever all of these names are bound; if they are the
supported ones it is left with operators that have no result, with types and with values that are
not finite. -/
theorem checked_formula_fails_for_values {budget : Budget} (hTime : budget.isSpent = false)
    (text : String) :
    (∀ bindings error,
      evaluate budget text bindings = .error error ∧ error.kind = .syntactic ↔
        validate text = .error error) ∧
    (∀ available, validateParameters text available = .ok () →
      ∀ bindings : Bindings, (∀ name ∈ available, (bindings name).isSome = true) →
        ∀ error, evaluate budget text bindings = .error error →
          error.kind ≠ .syntactic ∧ ∀ name, error ≠ .unknownParameter name) ∧
    (validateParameters text (supportedParameters false) = .ok () →
      ∀ measurements, measurements ≠ [] →
        ∃ parameters, LogParameters.ofMeasurements? measurements = some parameters ∧
          ∀ error, evaluate budget text parameters.bindings = .error error →
            error = .divisionByZero ∨ error = .notFinite ∨
              ∃ expected found, error = .typeMismatch expected found) ∧
    (validateParameters text (supportedParameters true) = .ok () →
      ∀ measurements index, index < measurements.length →
        ∃ parameters, DifferentialParameters.at? measurements index = some parameters ∧
          ∀ error, evaluate budget text parameters.bindings = .error error →
            error = .divisionByZero ∨ error = .notFinite ∨
              ∃ expected found, error = .typeMismatch expected found) := by
  have hValues : ∀ {available : List String} {bindings : Bindings},
      validateParameters text available = .ok () →
      (∀ name ∈ available, (bindings name).isSome = true) →
      ∀ error, evaluate budget text bindings = .error error →
        error = .divisionByZero ∨ error = .notFinite ∨
          ∃ expected found, error = .typeMismatch expected found := by
    intro available bindings hChecked hBound error hFails
    rcases failure_of_checked hTime hChecked hBound hFails with hOperator | hNumber
    · cases hOperator with
      | divisionByZero => exact .inl rfl
      | typeMismatch hOther => exact .inr (.inr ⟨_, _, rfl⟩)
    · exact .inr (.inl hNumber)
  refine ⟨?_, ?_, ?_, ?_⟩
  · intro bindings error
    rw [validate_eq_error_iff]
    constructor
    · rintro ⟨hFails, hKind⟩
      cases hParse : parse text with
      | error cause =>
          rw [evaluate_of_parse_error hParse] at hFails
          exact congrArg Except.error (Except.error.inj hFails)
      | ok expr => exact absurd hKind (kind_of_evaluate_error hTime hParse hFails)
    · intro hParse
      exact ⟨evaluate_of_parse_error hParse, kind_of_parse_error hParse⟩
  · intro available hChecked bindings hBound error hFails
    rcases hValues hChecked hBound error hFails with rfl | rfl | ⟨expected, found, rfl⟩
    · exact ⟨nofun, nofun⟩
    · exact ⟨nofun, nofun⟩
    · exact ⟨nofun, nofun⟩
  · intro hChecked measurements hSome
    obtain ⟨parameters, hParameters⟩ := LogParameters.exists_ofMeasurements hSome
    exact ⟨parameters, hParameters, hValues hChecked parameters.bindings_isSome⟩
  · intro hChecked measurements index hIndex
    obtain ⟨parameters, hParameters⟩ := DifferentialParameters.exists_at hIndex
    exact ⟨parameters, hParameters, hValues hChecked parameters.bindings_isSome⟩

def spreadRate : String :=
  "current_area > 0 ? current_amount / current_area : not (1 > 2)"

/-- That formula passes the checks for both kinds of parameters, and what it then fails with is a
matter of its values. -/
theorem spreadRate_fails_for_values :
    let budget : Budget := ⟨100⟩
    let start : Measurement := ⟨7.5, 0⟩
    budget.isSpent = false ∧
      validateParameters spreadRate (supportedParameters false) = .ok () ∧
      validateParameters spreadRate (supportedParameters true) = .ok () ∧
      (∀ name ∈ supportedParameters false,
        (LogParameters.bindings ⟨start, start⟩ name).isSome = true) ∧
      (∀ error, evaluate budget spreadRate (LogParameters.bindings ⟨start, start⟩) = .error error →
        error.kind ≠ .syntactic ∧ ∀ name, error ≠ .unknownParameter name) ∧
      (∃ parameters, LogParameters.ofMeasurements? [start] = some parameters ∧
        ∀ error, evaluate budget spreadRate parameters.bindings = .error error →
          error = .divisionByZero ∨ error = .notFinite ∨
            ∃ expected found, error = .typeMismatch expected found) ∧
      ∃ parameters, DifferentialParameters.at? [start] 0 = some parameters ∧
        ∀ error, evaluate budget spreadRate parameters.bindings = .error error →
          error = .divisionByZero ∨ error = .notFinite ∨
            ∃ expected found, error = .typeMismatch expected found := by
  intro budget start
  have hTime : budget.isSpent = false := by decide
  have hLog : validateParameters spreadRate (supportedParameters false) = .ok () := by
    decide +kernel
  have hDifferential : validateParameters spreadRate (supportedParameters true) = .ok () := by
    decide +kernel
  obtain ⟨-, hAvailable, hOfLog, hOfRecord⟩ := checked_formula_fails_for_values hTime spreadRate
  have hBound := LogParameters.bindings_isSome ⟨start, start⟩
  exact ⟨hTime, hLog, hDifferential, hBound, hAvailable _ hLog _ hBound,
    hOfLog hLog [start] (List.cons_ne_nil _ _), hOfRecord hDifferential [start] 0 (by decide)⟩

end LawnCalibration.Calibration
