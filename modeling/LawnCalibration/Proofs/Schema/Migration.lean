import LawnCalibration.Schema.Migration
import Mathlib.Data.List.Nodup

/-
Migrations on any database.

A list of statements succeeds as a whole just when none of its names is taken.
So migrations are applied in order, each together with its version, up to the
first one with a name that is taken, and that one and those after it leave
nothing behind.
-/

set_option autoImplicit false

namespace LawnCalibration.Schema

def Catalog.isTaken (catalog : Catalog) (name : String) : Bool :=
  catalog.hasTable name || catalog.hasIndex name

def Clash.name : Clash → String
  | .tableExists name | .indexExists name | .tableNamed name | .indexNamed name => name

namespace Statement

def name : Statement → String
  | .createTable name | .createIndex name => name

def table? : Statement → Option String
  | .createTable name => some name
  | .createIndex _ => none

def index? : Statement → Option String
  | .createTable _ => none
  | .createIndex name => some name

end Statement

def Catalog.extended (catalog : Catalog) (statements : List Statement) : Catalog :=
  { catalog with
    tables := catalog.tables ++ statements.filterMap Statement.table?
    indexes := catalog.indexes ++ statements.filterMap Statement.index? }

def NamesDiffer (statements : List Statement) : Prop :=
  (statements.map fun statement => folded statement.name).Nodup

instance (statements : List Statement) : Decidable (NamesDiffer statements) :=
  inferInstanceAs (Decidable (List.Nodup _))

section Statements

variable {catalog after : Catalog} {statement : Statement} {statements : List Statement}

private theorem extended_nil : catalog.extended [] = catalog := by
  simp [Catalog.extended]

private theorem extended_append (first second : List Statement) :
    (catalog.extended first).extended second = catalog.extended (first ++ second) := by
  simp [Catalog.extended]

theorem isTaken_extended_singleton {name : String} (hName : folded name ≠ folded statement.name) :
    (catalog.extended [statement]).isTaken name = catalog.isTaken name := by
  have hOther : sameName name statement.name = false := beq_eq_false_iff_ne.2 hName
  cases statement with
  | createTable created =>
      simp only [Statement.name] at hOther
      simp [Catalog.isTaken, Catalog.hasTable, Catalog.hasIndex, Catalog.extended, Statement.table?,
        Statement.index?, hOther]
  | createIndex created =>
      simp only [Statement.name] at hOther
      simp [Catalog.isTaken, Catalog.hasTable, Catalog.hasIndex, Catalog.extended, Statement.table?,
        Statement.index?, hOther]

theorem Statement.run_of_free (hFree : catalog.isTaken statement.name = false) :
    statement.run catalog = .ok (catalog.extended [statement]) := by
  obtain ⟨hTable, hIndex⟩ := Bool.or_eq_false_iff.1 hFree
  cases statement with
  | createTable created =>
      simp only [name] at hTable hIndex
      simp [run, Catalog.addTable, hTable, hIndex, Catalog.extended, table?, index?]
  | createIndex created =>
      simp only [name] at hTable hIndex
      simp [run, Catalog.addIndex, hTable, hIndex, Catalog.extended, table?, index?]

/-- A statement that fails says which name is taken. -/
theorem Statement.run_of_taken (hTaken : catalog.isTaken statement.name = true) :
    ∃ clash : Clash, statement.run catalog = .error clash ∧ clash.name = statement.name := by
  rw [Catalog.isTaken, Bool.or_eq_true] at hTaken
  cases statement with
  | createTable created =>
      simp only [name] at hTaken
      by_cases hTable : catalog.hasTable created = true
      · exact ⟨.tableExists created, by simp [run, Catalog.addTable, hTable], rfl⟩
      · have hIndex := hTaken.resolve_left hTable
        exact ⟨.indexNamed created, by simp [run, Catalog.addTable, hTable, hIndex], rfl⟩
  | createIndex created =>
      simp only [name] at hTaken
      by_cases hTable : catalog.hasTable created = true
      · exact ⟨.tableNamed created, by simp [run, Catalog.addIndex, hTable], rfl⟩
      · have hIndex := hTaken.resolve_left hTable
        exact ⟨.indexExists created, by simp [run, Catalog.addIndex, hTable, hIndex], rfl⟩

private theorem runAtomically_cons_of_ok {statement : Statement}
    (hRun : statement.run catalog = .ok after) :
    runAtomically (statement :: statements) catalog = runAtomically statements after := by
  simp only [runAtomically, runStatements, hRun]

private theorem runAtomically_cons_of_error {clash : Clash}
    (hRun : statement.run catalog = .error clash) :
    runAtomically (statement :: statements) catalog = .error clash := by
  simp only [runAtomically, runStatements, hRun]

/-- Whether later names are taken does not depend on an earlier statement. -/
theorem NamesDiffer.isTaken_tail (hDiffer : NamesDiffer (statement :: statements)) :
    ∀ later ∈ statements,
      (catalog.extended [statement]).isTaken later.name = catalog.isTaken later.name := by
  intro later hLater
  apply isTaken_extended_singleton
  intro hSame
  apply (List.nodup_cons.1 hDiffer).1
  exact List.mem_map.2 ⟨later, hLater, hSame⟩

theorem runAtomically_of_free (hDiffer : NamesDiffer statements)
    (hFree : ∀ statement ∈ statements, catalog.isTaken statement.name = false) :
    runAtomically statements catalog = .ok (catalog.extended statements) := by
  induction statements generalizing catalog with
  | nil =>
      rw [extended_nil]
      rfl
  | cons statement statements ih =>
      obtain ⟨hFirst, hRest⟩ := List.forall_mem_cons.1 hFree
      have hLater : ∀ later ∈ statements,
          (catalog.extended [statement]).isTaken later.name = false := by
        intro later hMember
        rw [hDiffer.isTaken_tail later hMember]
        exact hRest later hMember
      rw [runAtomically_cons_of_ok (Statement.run_of_free hFirst),
        ih (List.nodup_cons.1 hDiffer).2 hLater, extended_append]
      rfl

theorem runAtomically_of_taken (hDiffer : NamesDiffer statements)
    (hTaken : ∃ statement ∈ statements, catalog.isTaken statement.name = true) :
    ∃ clash, runAtomically statements catalog = .error clash ∧
      clash.name ∈ statements.map Statement.name ∧ catalog.isTaken clash.name = true := by
  induction statements generalizing catalog with
  | nil =>
      obtain ⟨statement, hMember, -⟩ := hTaken
      cases hMember
  | cons statement statements ih =>
      by_cases hFirst : catalog.isTaken statement.name = true
      · obtain ⟨clash, hRun, hName⟩ := Statement.run_of_taken hFirst
        refine ⟨clash, runAtomically_cons_of_error hRun, ?_, hName ▸ hFirst⟩
        rw [hName]
        exact List.mem_cons_self
      · have hLater : ∃ later ∈ statements,
            (catalog.extended [statement]).isTaken later.name = true := by
          obtain ⟨later, hMember, hName⟩ := hTaken
          rcases List.mem_cons.1 hMember with rfl | hRest
          · exact absurd hName hFirst
          · exact ⟨later, hRest, (hDiffer.isTaken_tail later hRest).trans hName⟩
        rw [Bool.not_eq_true] at hFirst
        rw [runAtomically_cons_of_ok (Statement.run_of_free hFirst)]
        obtain ⟨clash, hRun, hName, hClash⟩ := ih (List.nodup_cons.1 hDiffer).2 hLater
        refine ⟨clash, hRun, List.mem_cons_of_mem _ hName, ?_⟩
        obtain ⟨later, hMember, hSame⟩ := List.mem_map.1 hName
        rw [← hSame] at hClash ⊢
        exact (hDiffer.isTaken_tail later hMember).symm.trans hClash

end Statements

/-! ### Migrations -/

namespace Catalog

/-- The versions on record; none where there is no table of versions. -/
def versions (catalog : Catalog) : List Int :=
  catalog.recorded?.getD []

def migrated (catalog : Catalog) (applied : List Migration) : Catalog :=
  { catalog.extended (applied.flatMap Migration.statements) with
    ledger := .versions (catalog.versions ++ applied.map Migration.version) }

def IsFreeFor (catalog : Catalog) (lacking : List Migration) : Prop :=
  ∀ statement ∈ lacking.flatMap Migration.statements, catalog.isTaken statement.name = false

end Catalog

section Migrations

variable {catalog : Catalog} {recorded : List Int} {migration : Migration}
  {lacking : List Migration}

theorem versions_of_ledger (hLedger : catalog.ledger = .versions recorded) :
    catalog.versions = recorded := by
  rw [Catalog.versions, Catalog.recorded?, hLedger]
  rfl

private theorem migrated_nil (hLedger : catalog.ledger = .versions recorded) :
    catalog.migrated [] = catalog := by
  rw [Catalog.migrated, versions_of_ledger hLedger, List.map_nil, List.append_nil,
    List.flatMap_nil, extended_nil, ← hLedger]

theorem migrated_append (first second : List Migration) :
    (catalog.migrated first).migrated second = catalog.migrated (first ++ second) := by
  simp [Catalog.migrated, Catalog.extended, Catalog.versions, Catalog.recorded?]

/-- What two migrations create has different names, and so has what each of them creates. -/
private theorem namesDiffer_cons
    (hDiffer : NamesDiffer ((migration :: lacking).flatMap Migration.statements)) :
    NamesDiffer migration.statements ∧ NamesDiffer (lacking.flatMap Migration.statements) ∧
      ∀ first ∈ migration.statements, ∀ second ∈ lacking.flatMap Migration.statements,
        folded second.name ≠ folded first.name := by
  rw [NamesDiffer, List.flatMap_cons, List.map_append, List.nodup_append] at hDiffer
  obtain ⟨hFirst, hRest, hApart⟩ := hDiffer
  refine ⟨hFirst, hRest, fun first hMember second hLater => ?_⟩
  exact (hApart _ (List.mem_map_of_mem hMember) _ (List.mem_map_of_mem hLater)).symm

private theorem isTaken_extended {statements : List Statement} {name : String}
    (hApart : ∀ statement ∈ statements, folded name ≠ folded statement.name) :
    (catalog.extended statements).isTaken name = catalog.isTaken name := by
  induction statements generalizing catalog with
  | nil => rw [extended_nil]
  | cons statement statements ih =>
      obtain ⟨hFirst, hRest⟩ := List.forall_mem_cons.1 hApart
      rw [← List.singleton_append, ← extended_append, ih hRest, isTaken_extended_singleton hFirst]

private theorem isTaken_migrated {name : String}
    (hApart : ∀ statement ∈ migration.statements, folded name ≠ folded statement.name) :
    (catalog.migrated [migration]).isTaken name = catalog.isTaken name := by
  have hSame : (catalog.migrated [migration]).isTaken name =
      (catalog.extended migration.statements).isTaken name := by
    rw [← List.flatMap_singleton Migration.statements migration]
    rfl
  rw [hSame, isTaken_extended hApart]

theorem Migration.apply_of_free (hDiffer : NamesDiffer migration.statements)
    (hFree : ∀ statement ∈ migration.statements, catalog.isTaken statement.name = false)
    (hLedger : catalog.ledger = .versions recorded) (hNew : migration.version ∉ recorded) :
    migration.apply catalog = .ok (catalog.migrated [migration]) := by
  have hSame : (catalog.extended migration.statements).ledger = .versions recorded := hLedger
  simp only [apply, runAtomically_of_free hDiffer hFree, Catalog.record?, hSame, if_neg hNew,
    Catalog.migrated, versions_of_ledger hLedger, List.flatMap_singleton, List.map_singleton]

theorem Migration.apply_of_taken (hDiffer : NamesDiffer migration.statements)
    (hTaken : ∃ statement ∈ migration.statements, catalog.isTaken statement.name = true) :
    ∃ clash, migration.apply catalog = .error (.migration migration.version clash) ∧
      clash.name ∈ migration.statements.map Statement.name ∧
      catalog.isTaken clash.name = true := by
  obtain ⟨clash, hRun, hName, hClash⟩ := runAtomically_of_taken hDiffer hTaken
  exact ⟨clash, by simp only [apply, hRun], hName, hClash⟩

/-- Migrations are applied in order, up to the first one that has a name that is taken. -/
inductive Applied (catalog : Catalog) (lacking : List Migration) :
    Except StoreError Unit × Catalog → Prop
  | all (hFree : catalog.IsFreeFor lacking) :
      Applied catalog lacking (.ok (), catalog.migrated lacking)
  | upTo {done later : List Migration} {failing : Migration} {clash : Clash}
      (hSplit : lacking = done ++ failing :: later)
      (hName : clash.name ∈ failing.statements.map Statement.name)
      (hTaken : catalog.isTaken clash.name = true) :
      Applied catalog lacking (.error (.migration failing.version clash), catalog.migrated done)

/-- A migration that is applied comes before those that follow it, whose names it leaves alone. -/
theorem Applied.cons {result : Except StoreError Unit × Catalog}
    (hApplied : Applied (catalog.migrated [migration]) lacking result)
    (hFree : ∀ statement ∈ migration.statements, catalog.isTaken statement.name = false)
    (hSame : ∀ statement ∈ lacking.flatMap Migration.statements,
      (catalog.migrated [migration]).isTaken statement.name = catalog.isTaken statement.name) :
    Applied catalog (migration :: lacking) result := by
  cases hApplied with
  | all hRest =>
      rw [migrated_append]
      refine .all fun statement hStatement => ?_
      rcases List.mem_append.1 hStatement with hFirst | hLater
      · exact hFree statement hFirst
      · exact (hSame statement hLater).symm.trans (hRest statement hLater)
  | @upTo done later failing clash hSplit hName hTaken =>
      rw [migrated_append]
      refine .upTo (congrArg (migration :: ·) hSplit) hName ?_
      obtain ⟨statement, hStatement, hClash⟩ := List.mem_map.1 hName
      have hLater : statement ∈ lacking.flatMap Migration.statements := by
        rw [hSplit]
        exact List.mem_flatMap.2 ⟨failing, by simp, hStatement⟩
      rw [← hClash] at hTaken ⊢
      exact (hSame statement hLater).symm.trans hTaken

/-- By induction on the migrations: each finds the catalog with all that came before it. -/
theorem applied_applyAll (hDiffer : NamesDiffer (lacking.flatMap Migration.statements))
    (hLedger : catalog.ledger = .versions recorded)
    (hVersions : (lacking.map Migration.version).Nodup)
    (hNew : ∀ migration ∈ lacking, migration.version ∉ recorded) :
    Applied catalog lacking (applyAll lacking catalog) := by
  induction lacking generalizing catalog recorded with
  | nil =>
      have hAll : Applied catalog [] (.ok (), catalog.migrated []) := .all (List.forall_mem_nil _)
      rw [migrated_nil hLedger] at hAll
      exact hAll
  | cons migration lacking ih =>
      obtain ⟨hInside, hRest, hApart⟩ := namesDiffer_cons hDiffer
      obtain ⟨hFirst, hOthers⟩ := List.nodup_cons.1 hVersions
      obtain ⟨hFresh, hLaterFresh⟩ := List.forall_mem_cons.1 hNew
      by_cases hFree : ∀ statement ∈ migration.statements, catalog.isTaken statement.name = false
      · have hRun := Migration.apply_of_free hInside hFree hLedger hFresh
        have hAfter : (catalog.migrated [migration]).ledger =
            .versions (recorded ++ [migration.version]) := by
          rw [← versions_of_ledger hLedger]
          rfl
        have hLater : Applied (catalog.migrated [migration]) lacking
            (applyAll lacking (catalog.migrated [migration])) := by
          refine ih hRest hAfter hOthers fun later hLater hKnown => ?_
          rcases List.mem_append.1 hKnown with hOld | hLast
          · exact hLaterFresh later hLater hOld
          · apply hFirst
            rw [← List.mem_singleton.1 hLast]
            exact List.mem_map_of_mem hLater
        rw [applyAll, hRun]
        refine hLater.cons hFree fun statement hStatement => ?_
        exact isTaken_migrated fun first hFirst => hApart first hFirst statement hStatement
      · have hTaken : ∃ statement ∈ migration.statements,
            catalog.isTaken statement.name = true := by
          simpa using hFree
        obtain ⟨clash, hRun, hName, hClash⟩ := Migration.apply_of_taken hInside hTaken
        have hStopped : Applied catalog (migration :: lacking)
            (.error (.migration migration.version clash), catalog.migrated []) :=
          .upTo rfl hName hClash
        rw [migrated_nil hLedger] at hStopped
        rw [applyAll, hRun]
        exact hStopped

end Migrations

end LawnCalibration.Schema
