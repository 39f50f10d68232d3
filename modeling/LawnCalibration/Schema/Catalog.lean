import LawnCalibration.Schema.Clash
import LawnCalibration.Text.LetterCase

/-
The tables and indexes of a database by name.

Names are told apart without regard to ASCII case, and a table and an index
cannot share one.  The table of recorded versions is one of the tables; it may
also have been made with columns that hold no versions.
-/

set_option autoImplicit false

namespace LawnCalibration.Schema

inductive Ledger where
  /-- there is no such table -/
  | absent
  /-- the table has no column of versions -/
  | foreign
  | versions (recorded : List Int)
deriving DecidableEq, Repr

structure Catalog where
  tables : List String
  indexes : List String
  ledger : Ledger
deriving DecidableEq, Repr

def ledgerName : String := "schema_migrations"

def folded (name : String) : List Char :=
  name.toList.map Text.asciiLowered

def sameName (first second : String) : Bool :=
  folded first == folded second

namespace Catalog

def empty : Catalog :=
  { tables := [], indexes := [], ledger := .absent }

def hasTable (catalog : Catalog) (name : String) : Bool :=
  catalog.tables.any (sameName name)

def hasIndex (catalog : Catalog) (name : String) : Bool :=
  catalog.indexes.any (sameName name)

def addTable (name : String) (catalog : Catalog) : Except Clash Catalog :=
  if catalog.hasTable name then .error (.tableExists name)
  else if catalog.hasIndex name then .error (.indexNamed name)
  else .ok { catalog with tables := catalog.tables ++ [name] }

def addIndex (name : String) (catalog : Catalog) : Except Clash Catalog :=
  if catalog.hasTable name then .error (.tableNamed name)
  else if catalog.hasIndex name then .error (.indexExists name)
  else .ok { catalog with indexes := catalog.indexes ++ [name] }

def withLedger (catalog : Catalog) : Except Clash Catalog :=
  if catalog.hasTable ledgerName then .ok catalog
  else (catalog.addTable ledgerName).map fun after => { after with ledger := .versions [] }

def recorded? (catalog : Catalog) : Option (List Int) :=
  match catalog.ledger with
  | .versions recorded => some recorded
  | _ => none

def newest : List Int → Int
  | [] => 0
  | version :: versions => versions.foldl max version

def version? (catalog : Catalog) : Option Int :=
  catalog.recorded?.map newest

/-- Puts a version on record; one that is there already is refused. -/
def record? (version : Int) (catalog : Catalog) : Option Catalog :=
  match catalog.ledger with
  | .versions recorded =>
      if version ∈ recorded then none
      else some { catalog with ledger := .versions (recorded ++ [version]) }
  | _ => none

end Catalog
end LawnCalibration.Schema
