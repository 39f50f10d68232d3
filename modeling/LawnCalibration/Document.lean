/-
Documents: trees of named and listed values.

A number is an integer or a real by the way it was written.  A structure may be
given by the names of its fields or as a list of them in order; in the first
form unknown names do not matter, in the second no value may be left over.
-/

set_option autoImplicit false

namespace LawnCalibration

inductive Document where
  | null
  | boolean (value : Bool)
  | integer (value : Int)
  | real (value : Float)
  | text (value : String)
  | list (items : List Document)
  | record (fields : List (String × Document))

namespace Document

variable {α : Type}

def toText? : Document → Option String
  | .text value => some value
  | _ => none

/-- A real number; an integer stands for the number nearest to it. -/
def toReal? : Document → Option Float
  | .real value => some value
  | .integer value => some (Float.ofInt value)
  | _ => none

/-- A real number as a document holds it: one that is not finite cannot be written and is null. -/
def ofReal (x : Float) : Document :=
  if x.isFinite then .real x else .null

def toWord32? : Document → Option UInt32
  | .integer value =>
      if 0 ≤ value ∧ value < Int.pow 2 32 then some (UInt32.ofNat value.toNat) else none
  | _ => none

def toNatural? : Document → Option Nat
  | .integer value => if 0 ≤ value then some value.toNat else none
  | _ => none

def toBoolean? : Document → Option Bool
  | .boolean value => some value
  | _ => none

def toList? (decode : Document → Option α) : Document → Option (List α)
  | .list items => items.mapM decode
  | _ => none

/-- Null stands for nothing. -/
def toOption? (decode : Document → Option α) : Document → Option (Option α)
  | .null => some none
  | document => (decode document).map some

inductive Slot where
  | given (value : Document)
  /-- no field of that name -/
  | omitted
  /-- the list of fields ended before -/
  | cut

def slots? (names : List String) : Document → Option (List Slot)
  | .record fields =>
      some (names.map fun name =>
        match fields.lookup name with
        | some value => .given value
        | none => .omitted)
  | .list items =>
      if items.length ≤ names.length then
        some (items.map .given ++ List.replicate (names.length - items.length) .cut)
      else none
  | _ => none

namespace Slot

def required (decode : Document → Option α) : Slot → Option α
  | .given value => decode value
  | _ => none

def optional (decode : Document → Option α) : Slot → Option (Option α)
  | .given value => toOption? decode value
  | .omitted => some none
  | .cut => none

def orElse (decode : Document → Option α) (standard : α) : Slot → Option α
  | .given value => decode value
  | _ => some standard

end Slot
end Document
end LawnCalibration
