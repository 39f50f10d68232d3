import LawnCalibration.Schema.Catalog
import LawnCalibration.Store.Error

/-
Migrations, and how a database is brought up to date.

A migration is a list of statements.  Brought up to date, a database gets every
migration newer than its newest recorded version: each together with its version
or not at all, and none after one that fails.
-/

set_option autoImplicit false

namespace LawnCalibration.Schema

inductive Statement where
  | createTable (name : String)
  | createIndex (name : String)
deriving DecidableEq, Repr

def Statement.run : Statement → Catalog → Except Clash Catalog
  | .createTable name => Catalog.addTable name
  | .createIndex name => Catalog.addIndex name

structure Migration where
  version : Int
  statements : List Statement
deriving DecidableEq, Repr

def migrations : List Migration := [
  { version := 1
    statements := [
      .createTable "formulations",
      .createTable "lawn_services",
      .createTable "calibration_logs",
      .createIndex "idx_calibration_logs_user",
      .createIndex "idx_calibration_logs_created",
      .createTable "calibration_records",
      .createIndex "idx_calibration_records_log"] },
  { version := 2
    statements := [.createTable "units"] }]

/-- Runs statements up to the first that fails, and keeps what those before it did. -/
def runStatements : List Statement → Catalog → Except Clash Unit × Catalog
  | [], catalog => (.ok (), catalog)
  | statement :: statements, catalog =>
      match statement.run catalog with
      | .ok after => runStatements statements after
      | .error clash => (.error clash, catalog)

def runAtomically (statements : List Statement) (catalog : Catalog) : Except Clash Catalog :=
  match runStatements statements catalog with
  | (.ok _, after) => .ok after
  | (.error clash, _) => .error clash

/-- A migration and its version on record, or nothing of both. -/
def Migration.apply (migration : Migration) (catalog : Catalog) :
    Except StoreError Catalog :=
  match runAtomically migration.statements catalog with
  | .error clash => .error (.migration migration.version clash)
  | .ok after =>
      match after.record? migration.version with
      | some recorded => .ok recorded
      | none => .error (.database (.violated (.unique (ledgerName ++ ".version"))))

def applyAll : List Migration → Catalog → Except StoreError Unit × Catalog
  | [], catalog => (.ok (), catalog)
  | migration :: later, catalog =>
      match migration.apply catalog with
      | .ok after => applyAll later after
      | .error error => (.error error, catalog)

def pending (version : Int) : List Migration :=
  migrations.filter fun migration => version < migration.version

def ensure (catalog : Catalog) : Except StoreError Unit × Catalog :=
  match catalog.withLedger with
  | .error clash => (.error (.database (.clash clash)), catalog)
  | .ok prepared =>
      match prepared.version? with
      | none => (.error (.database (.noSuchColumn "version")), prepared)
      | some version => applyAll (pending version) prepared

end LawnCalibration.Schema
