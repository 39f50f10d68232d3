import LawnCalibration.Text.Digits

/-
Why a formula has no value.

A text that is no formula, a parameter without a value, an operation without a
result, operands of the wrong type and an exhausted time budget are told apart;
each failure belongs to one of four kinds.
-/

set_option autoImplicit false

namespace LawnCalibration.Formula

inductive Expectation where
  | operand
  | notKeyword
  | colon
  | exponentDigit
deriving DecidableEq, Repr

def Expectation.label : Expectation → String
  | .operand => "Satisfy"
  | .notKeyword => "Verify"
  | .colon => "Char"
  | .exponentDigit => "Digit"

inductive SyntaxProblem where
  | expected (what : Expectation)
  | unexpected (rest : String)
deriving DecidableEq, Repr

def SyntaxProblem.message : SyntaxProblem → String
  | .expected what => "expected " ++ what.label
  | .unexpected rest => "unexpected characters: '" ++ rest ++ "'"

inductive ValueType where
  | number
  | boolean
deriving DecidableEq, Repr

def ValueType.label : ValueType → String
  | .number => "number"
  | .boolean => "boolean"

/-- Positions and lengths count bytes of the trimmed text. -/
inductive FormulaError where
  | malformed (position : Nat) (problem : SyntaxProblem)
  | empty
  | tooLong (length limit : Nat)
  | nestedTooDeep (limit : Nat)
  | unknownParameter (name : String)
  | divisionByZero
  | notFinite
  | typeMismatch (expected found : ValueType)
  | outOfTime (milliseconds : Nat)
deriving DecidableEq, Repr

inductive FailureKind where
  | syntactic
  | evaluation
  | typeMismatch
  | outOfTime
deriving DecidableEq, Repr

namespace FormulaError

open Text

def kind : FormulaError → FailureKind
  | .malformed .. | .empty | .tooLong .. | .nestedTooDeep .. => .syntactic
  | .unknownParameter _ | .divisionByZero | .notFinite => .evaluation
  | .typeMismatch .. => .typeMismatch
  | .outOfTime _ => .outOfTime

def message : FormulaError → String
  | .malformed position problem =>
      "parse error at position " ++ decimalText position ++ ": " ++ problem.message
  | .empty => "empty expression"
  | .tooLong length limit =>
      "expression is " ++ decimalText length ++ " bytes, limit is " ++ decimalText limit
  | .nestedTooDeep limit => "parentheses nested deeper than " ++ decimalText limit
  | .unknownParameter name => "unknown parameter: " ++ name
  | .divisionByZero => "division by zero"
  | .notFinite => "result is not a finite number"
  | .typeMismatch expected found =>
      "type mismatch: expected " ++ expected.label ++ ", found " ++ found.label
  | .outOfTime milliseconds =>
      "evaluation exceeded its " ++ decimalText milliseconds ++ " ms budget"

end FormulaError
end LawnCalibration.Formula
