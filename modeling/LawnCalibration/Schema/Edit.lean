import LawnCalibration.Schema.Migration
import LawnCalibration.Store.Statement

/-
Changes of a schema by hand.
-/

set_option autoImplicit false

namespace LawnCalibration.Schema

open Store.Statement (Create)

/-- Names of this form belong to the database itself. -/
def reservedStart : List Char :=
  ['s', 'q', 'l', 'i', 't', 'e', '_']

def isReserved (name : String) : Bool :=
  reservedStart.isPrefixOf (folded name)

namespace Catalog

/-- Makes a table of one column in the schema of the database, or in the one for temporary
tables, which is not part of the catalog.  Under the name of the table of versions it holds
none. -/
def makeTable? (text : String) (catalog : Catalog) : Option Catalog :=
  match Create.read (Create.text text) with
  | .error _ => none
  | .ok statement =>
      let name := statement.table.name
      let schema := statement.table.schema?.getD "main"
      if isReserved name then none
      else if sameName "temp" schema then some catalog
      else if !sameName "main" schema then none
      else
        match catalog.addTable name with
        | .error _ =>
            if statement.onlyIfAbsent ∧ catalog.hasTable name then some catalog else none
        | .ok after =>
            if sameName name ledgerName then some { after with ledger := .foreign }
            else some after

def claim (version : Int) (catalog : Catalog) : Option Unit × Catalog :=
  match catalog.withLedger with
  | .error _ => (none, catalog)
  | .ok prepared =>
      match prepared.record? version with
      | some after => (some (), after)
      | none => (none, prepared)

/-- Runs the statements of a migration without putting its version on record. -/
def runMigration (version : Int) (catalog : Catalog) : Option (Except Clash Unit) × Catalog :=
  match migrations.find? (fun migration => migration.version == version) with
  | none => (none, catalog)
  | some migration =>
      let (outcome, after) := runStatements migration.statements catalog
      (some outcome, after)

end Catalog
end LawnCalibration.Schema
