/-
Formulas as trees, and the parameter names that stand in them.
-/

set_option autoImplicit false

namespace LawnCalibration.Formula

inductive BinaryOp where
  | add | sub | mul | div
  | gt | lt | gte | lte | eq | neq
  | and | or
deriving DecidableEq, Repr

inductive UnaryOp where
  | neg | not
deriving DecidableEq, Repr

inductive Expr where
  | number (value : Float)
  | variable (name : String)
  | unary (op : UnaryOp) (operand : Expr)
  | binary (op : BinaryOp) (left right : Expr)
  | ternary (condition yes no : Expr)
deriving DecidableEq, Repr

namespace Expr

def occurrences : Expr → List String
  | .number _ => []
  | .variable name => [name]
  | .unary _ operand => operand.occurrences
  | .binary _ left right => left.occurrences ++ right.occurrences
  | .ternary condition yes no => condition.occurrences ++ yes.occurrences ++ no.occurrences

/-- Adds the names that are not yet listed, in the order in which they first stand in the tree. -/
def addVariables (names : List String) : Expr → List String
  | .number _ => names
  | .variable name => if name ∈ names then names else names ++ [name]
  | .unary _ operand => operand.addVariables names
  | .binary _ left right => right.addVariables (left.addVariables names)
  | .ternary condition yes no => no.addVariables (yes.addVariables (condition.addVariables names))

/-- The parameter names of a formula, each once, by first occurrence. -/
def names (expr : Expr) : List String :=
  expr.addVariables []

def nodes : Expr → Nat
  | .number _ => 1
  | .variable _ => 1
  | .unary _ operand => operand.nodes + 1
  | .binary _ left right => left.nodes + right.nodes + 1
  | .ternary condition yes no => condition.nodes + yes.nodes + no.nodes + 1

end Expr
end LawnCalibration.Formula
