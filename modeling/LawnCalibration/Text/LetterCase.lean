import LawnCalibration.Text.LetterCase.Table

/-
Letter case by the Unicode character properties.

A character has a case by its own properties alone: no rule looks at its
neighbours, so a capital sigma has one lower case form wherever it stands.
-/

set_option autoImplicit false

namespace LawnCalibration.Text

def runHolds (n : Nat) (run : Nat × Nat × Nat) : Bool :=
  run.1 ≤ n && n ≤ run.2.1 && (n - run.1) % run.2.2 == 0

def isUpper (c : Char) : Bool :=
  if c.toNat < 128 then 'A' ≤ c && c ≤ 'Z' else LetterCase.upperRuns.any (runHolds c.toNat)

def isLower (c : Char) : Bool :=
  if c.toNat < 128 then 'a' ≤ c && c ≤ 'z' else LetterCase.lowerRuns.any (runHolds c.toNat)

/-- The full lower case form.  Only the capital I with a dot above has a form of
two characters. -/
def lowered (c : Char) : List Char :=
  if c.toNat < 128 then
    if 'A' ≤ c ∧ c ≤ 'Z' then [Char.ofNat (c.toNat + 32)] else [c]
  else if c.toNat == 0x130 then ['i', Char.ofNat 0x307]
  else
    let holds := fun (run : Nat × Nat × Nat × Int) => runHolds c.toNat (run.1, run.2.1, run.2.2.1)
    match LetterCase.lowerMapRuns.find? holds with
    | some run => [Char.ofNat (c.toNat + run.2.2.2).toNat]
    | none => [c]

def asciiLowered (c : Char) : Char :=
  if 'A' ≤ c ∧ c ≤ 'Z' then Char.ofNat (c.toNat + 32) else c

end LawnCalibration.Text
