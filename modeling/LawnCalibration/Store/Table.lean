import LawnCalibration.Store.Error

/-
Tables as lists of numbered rows.

Rows are found by a text column, changed where they stand, and read in the order
of a text column.  A new row gets a number above those of all others, so that
rows which agree in the column can be read in the order of insertion.
-/

set_option autoImplicit false

namespace LawnCalibration.Store

variable {ρ α : Type}

def holds (column : ρ → String) (value : String) (rows : List ρ) : Bool :=
  rows.any fun row => column row == value

def findRow (column : ρ → String) (value : String) (rows : List ρ) : Option ρ :=
  rows.find? fun row => column row == value

def changeRows (chosen : ρ → Bool) (change : ρ → ρ) (rows : List ρ) : List ρ :=
  rows.map fun row => if chosen row then change row else row

def sortedBy (column : ρ → String) (rows : List ρ) : List ρ :=
  rows.mergeSort fun first second => !decide (column second < column first)

/-- The number of a new row, the one after the greatest in use. -/
def nextNumber (number : ρ → Int) (rows : List ρ) : Int :=
  match (rows.map number).max? with
  | none => 1
  | some greatest => greatest + 1

/-- A new row gets a number above that of every other. -/
theorem lt_nextNumber {number : ρ → Int} {rows : List ρ} {row : ρ} (hRow : row ∈ rows) :
    number row < nextNumber number rows := by
  have hMember := List.mem_map_of_mem (f := number) hRow
  unfold nextNumber
  split
  · rename_i hNone
    simp [List.max?_eq_none_iff.1 hNone] at hMember
  · rename_i greatest hGreatest
    have hBound := (List.max?_le_iff hGreatest).1 (Int.le_refl greatest) _ hMember
    omega

/-- Rows in the order of a column, those that agree in it by their numbers. -/
def sortedNumbered (column : ρ → String) (number : ρ → Int) (rows : List ρ) : List ρ :=
  rows.mergeSort fun first second =>
    if column first = column second then decide (number first ≤ number second)
    else decide (column first < column second)

def decodeRow (decode : ρ → Except StoreError α) : Option ρ → Except StoreError (Option α)
  | none => .ok none
  | some row => (decode row).map some

def demand (entity : EntityName) (violation : Violation) (met : Bool) :
    Except StoreError Unit :=
  if met then .ok () else .error (.conflict entity violation)

end LawnCalibration.Store
