import LawnCalibration.Formula.Reader

/-
The value of a formula under given parameters and a time budget.

Numbers and truth values are kept apart: an operator refuses operands of the
other type, and its left operand is judged before its right one.  A conjunction
that is already false and a disjunction that is already true leave the right
operand alone.
-/

set_option autoImplicit false

namespace LawnCalibration.Formula

inductive Value where
  | number (value : Float)
  | boolean (value : Bool)
deriving DecidableEq, Repr

namespace Value

def type : Value → ValueType
  | .number _ => .number
  | .boolean _ => .boolean

def asNumber : Value → Except FormulaError Float
  | .number x => .ok x
  | .boolean _ => .error (.typeMismatch .number .boolean)

def asBoolean : Value → Except FormulaError Bool
  | .boolean b => .ok b
  | .number _ => .error (.typeMismatch .boolean .number)

end Value

abbrev Bindings := String → Option Float

/-- Two numbers count as equal when they differ by less than this: the distance
from one to the next larger number. -/
def tolerance : Float :=
  Float.ofBits 0x3CB0000000000000

/-- Equality within `tolerance` for numbers; operands of two types have none. -/
def Value.equal : Value → Value → Except FormulaError Bool
  | .number x, .number y => .ok ((x - y).abs < tolerance)
  | .boolean a, .boolean b => .ok (a == b)
  | left, right => .error (.typeMismatch left.type right.type)

def UnaryOp.apply : UnaryOp → Value → Except FormulaError Value
  | .neg, operand => operand.asNumber.map fun x => .number (-x)
  | .not, operand => operand.asBoolean.map fun b => .boolean (!b)

/-- An arithmetic operation or comparison of two numbers, the left one judged first. -/
def onNumbers (left right : Value) (f : Float → Float → Except FormulaError Value) :
    Except FormulaError Value :=
  match left.asNumber with
  | .error e => .error e
  | .ok x =>
      match right.asNumber with
      | .error e => .error e
      | .ok y => f x y

def BinaryOp.apply (op : BinaryOp) (left right : Value) : Except FormulaError Value :=
  match op with
  | .add => onNumbers left right fun x y => .ok (.number (x + y))
  | .sub => onNumbers left right fun x y => .ok (.number (x - y))
  | .mul => onNumbers left right fun x y => .ok (.number (x * y))
  | .div => onNumbers left right fun x y =>
      if y == 0.0 then .error .divisionByZero else .ok (.number (x / y))
  | .gt => onNumbers left right fun x y => .ok (.boolean (x > y))
  | .lt => onNumbers left right fun x y => .ok (.boolean (x < y))
  | .gte => onNumbers left right fun x y => .ok (.boolean (x >= y))
  | .lte => onNumbers left right fun x y => .ok (.boolean (x <= y))
  | .eq => (left.equal right).map .boolean
  | .neq => (left.equal right).map fun same => .boolean (!same)
  | .and =>
      match left.asBoolean with
      | .error e => .error e
      | .ok false => .ok (.boolean false)
      | .ok true => right.asBoolean.map .boolean
  | .or =>
      match left.asBoolean with
      | .error e => .error e
      | .ok true => .ok (.boolean true)
      | .ok false => right.asBoolean.map .boolean

/-- The value that the left operand alone decides. -/
def BinaryOp.shortcut? : BinaryOp → Value → Option Value
  | .and, .boolean false => some (.boolean false)
  | .or, .boolean true => some (.boolean true)
  | _, _ => none

namespace Expr

/-- The value of a tree, or the first failure from left to right. -/
def evaluate (bindings : Bindings) : Expr → Except FormulaError Value
  | .number x => .ok (.number x)
  | .variable name =>
      match bindings name with
      | some x => .ok (.number x)
      | none => .error (.unknownParameter name)
  | .unary op operand =>
      match operand.evaluate bindings with
      | .error e => .error e
      | .ok value => op.apply value
  | .binary op left right =>
      match left.evaluate bindings with
      | .error e => .error e
      | .ok leftValue =>
          match op.shortcut? leftValue with
          | some value => .ok value
          | none =>
              match right.evaluate bindings with
              | .error e => .error e
              | .ok rightValue => op.apply leftValue rightValue
  | .ternary condition yes no =>
      match condition.evaluate bindings with
      | .error e => .error e
      | .ok value =>
          match value.asBoolean with
          | .error e => .error e
          | .ok true => yes.evaluate bindings
          | .ok false => no.evaluate bindings

end Expr

/-- The time that one evaluation may take.  A budget of nothing is spent before
any work is done; every other one is taken to last. -/
structure Budget where
  milliseconds : Nat
deriving DecidableEq, Repr

namespace Budget

def isSpent (budget : Budget) : Bool :=
  budget.milliseconds == 0

def standard : Budget :=
  { milliseconds := 100 }

end Budget

def Expr.evaluateWithin (budget : Budget) (bindings : Bindings) (expr : Expr) :
    Except FormulaError Value :=
  if budget.isSpent then .error (.outOfTime budget.milliseconds) else expr.evaluate bindings

def valueOf (budget : Budget) (text : String) (bindings : Bindings) :
    Except FormulaError Value :=
  match parse text with
  | .error e => .error e
  | .ok expr => expr.evaluateWithin budget bindings

def evaluate (budget : Budget) (text : String) (bindings : Bindings) :
    Except FormulaError Float :=
  match valueOf budget text bindings with
  | .error e => .error e
  | .ok value =>
      match value.asNumber with
      | .error e => .error e
      | .ok x => if x.isFinite then .ok x else .error .notFinite

def validate (text : String) : Except FormulaError Unit :=
  (parse text).map fun _ => ()

/-- Accepts a formula whose parameters are all available, and else names the first that is not. -/
def validateParameters (text : String) (available : List String) : Except FormulaError Unit :=
  match parse text with
  | .error e => .error e
  | .ok expr =>
      match expr.names.find? (fun name => !available.contains name) with
      | some missing => .error (.unknownParameter missing)
      | none => .ok ()

end LawnCalibration.Formula
