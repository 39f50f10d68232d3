import LawnCalibration.Proofs.Schema.Migration
import Mathlib.Data.List.Flatten
import Mathlib.Logic.Function.Iterate

/-
What bringing a schema up to date does to any database.

A database lacks the migrations that are newer than all versions on record.  It
gets them as far as their names are free, and it is left alone if its versions
cannot be told.
-/

set_option autoImplicit false

namespace LawnCalibration.Schema

/-! ### What a schema lacks -/

namespace Catalog

/-- The table of versions is there just when something is known of the versions. -/
def Consistent (catalog : Catalog) : Prop :=
  catalog.hasTable ledgerName = true ↔ catalog.ledger ≠ .absent

def newer (catalog : Catalog) : List Migration :=
  migrations.filter fun migration =>
    0 < migration.version ∧ ∀ version ∈ catalog.versions, version < migration.version

/-- A catalog with the table of versions, which is empty where there was none. -/
def prepared (catalog : Catalog) : Catalog :=
  if catalog.ledger = .absent then
    { catalog with tables := catalog.tables ++ [ledgerName], ledger := .versions [] }
  else catalog

/-- No migration can be applied: the name of the table of versions is that of an index, or the table
of that name holds no versions. -/
inductive Unversioned (catalog : Catalog) : StoreError → Prop
  | taken (hAbsent : catalog.ledger = .absent) (hIndex : catalog.hasIndex ledgerName = true) :
      Unversioned catalog (.database (.clash (.indexNamed ledgerName)))
  | foreign (hForeign : catalog.ledger = .foreign) :
      Unversioned catalog (.database (.noSuchColumn "version"))

/-- The versions on record are those of the first migrations, as far as they go. -/
def HasFirstMigrations (catalog : Catalog) : Prop :=
  catalog.versions <+: migrations.map Migration.version

end Catalog

theorem migrations_namesDiffer : NamesDiffer (migrations.flatMap Migration.statements) := by
  decide

theorem migrations_positive : ∀ migration ∈ migrations, 0 < migration.version := by
  decide

theorem migrations_ascend :
    migrations.Pairwise fun first second => first.version < second.version := by
  decide

theorem migrations_spare_ledger :
    ∀ statement ∈ migrations.flatMap Migration.statements,
      folded statement.name ≠ folded ledgerName := by
  decide

section Lacking

variable {catalog : Catalog}

private theorem newest_lt_iff {recorded : List Int} {version : Int} (hVersion : 0 < version) :
    Catalog.newest recorded < version ↔ ∀ other ∈ recorded, other < version := by
  have hFold : ∀ (rest : List Int) (first : Int), rest.foldl max first < version ↔
      first < version ∧ ∀ other ∈ rest, other < version := by
    intro rest
    induction rest with
    | nil => simp
    | cons next rest ih =>
        intro first
        rw [List.foldl_cons, ih, List.forall_mem_cons, Int.max_lt, and_assoc]
  cases recorded with
  | nil => simpa [Catalog.newest] using hVersion
  | cons first rest =>
      rw [Catalog.newest, hFold, List.forall_mem_cons]

private theorem pending_newest : pending (Catalog.newest catalog.versions) = catalog.newer := by
  refine List.filter_congr fun migration hMigration => ?_
  have hPositive := migrations_positive migration hMigration
  rw [decide_eq_decide, newest_lt_iff hPositive]
  exact ⟨fun hNewer => ⟨hPositive, hNewer⟩, And.right⟩

private theorem newer_sublist : catalog.newer.Sublist migrations :=
  List.filter_sublist

private theorem newer_not_recorded :
    ∀ migration ∈ catalog.newer, migration.version ∉ catalog.versions := by
  intro migration hMigration hRecorded
  have hNewer := of_decide_eq_true (List.mem_filter.1 hMigration).2
  exact Int.lt_irrefl _ (hNewer.2 _ hRecorded)

private theorem newer_nodup : (catalog.newer.map Migration.version).Nodup := by
  have hAscend : (catalog.newer.map Migration.version).Pairwise (· < ·) :=
    List.pairwise_map.2 (migrations_ascend.sublist newer_sublist)
  exact hAscend.imp Int.ne_of_lt

private theorem newer_namesDiffer : NamesDiffer (catalog.newer.flatMap Migration.statements) := by
  have hNewer : catalog.newer.Sublist migrations := newer_sublist
  exact migrations_namesDiffer.sublist ((hNewer.flatMap Migration.statements).map _)

/-- A catalog that has all newer migrations lacks none. -/
private theorem newer_migrated : (catalog.migrated catalog.newer).newer = [] := by
  refine List.filter_eq_nil_iff.2 fun migration hMigration hNewer => ?_
  obtain ⟨hPositive, hAbove⟩ := of_decide_eq_true hNewer
  have hVersions : (catalog.migrated catalog.newer).versions =
      catalog.versions ++ catalog.newer.map Migration.version := rfl
  rw [hVersions] at hAbove
  have hMember : migration ∈ catalog.newer := by
    refine List.mem_filter.2 ⟨hMigration, decide_eq_true ⟨hPositive, fun version hVersion => ?_⟩⟩
    exact hAbove version (List.mem_append_left _ hVersion)
  exact Int.lt_irrefl _ (hAbove _ (List.mem_append_right _ (List.mem_map_of_mem hMember)))

/-- Where the first migrations are on record, the newer ones are the others. -/
private theorem newer_of_first {done later : List Migration} (hSplit : migrations = done ++ later)
    (hRecorded : catalog.versions = done.map Migration.version) : catalog.newer = later := by
  have hAscend := migrations_ascend
  have hPositive := migrations_positive
  rw [hSplit, List.pairwise_append] at hAscend
  rw [hSplit] at hPositive
  unfold Catalog.newer
  rw [hSplit, hRecorded, List.filter_append]
  have hDone : (done.filter fun migration => 0 < migration.version ∧
      ∀ version ∈ done.map Migration.version, version < migration.version) = [] := by
    refine List.filter_eq_nil_iff.2 fun migration hMigration hNewer => ?_
    have hAbove := (of_decide_eq_true hNewer).2
    exact Int.lt_irrefl _ (hAbove _ (List.mem_map_of_mem hMigration))
  have hLater : (later.filter fun migration => 0 < migration.version ∧
      ∀ version ∈ done.map Migration.version, version < migration.version) = later := by
    refine List.filter_eq_self.2 fun migration hMigration => decide_eq_true ⟨?_, ?_⟩
    · exact hPositive migration (List.mem_append_right _ hMigration)
    · exact List.forall_mem_map.2 fun first hFirst => hAscend.2.2 first hFirst migration hMigration
  rw [hDone, hLater, List.nil_append]

end Lacking

/-! ### Any database -/

section Ensuring

variable {catalog : Catalog}

private theorem versions_prepared : catalog.prepared.versions = catalog.versions := by
  unfold Catalog.prepared
  split
  · rename_i hAbsent
    rw [Catalog.versions, Catalog.versions, Catalog.recorded?, Catalog.recorded?, hAbsent]
    rfl
  · rfl

private theorem newer_prepared : catalog.prepared.newer = catalog.newer := by
  rw [Catalog.newer, versions_prepared, Catalog.newer]

/-- The table of versions takes no name that a migration needs. -/
private theorem isTaken_prepared {name : String} (hName : folded name ≠ folded ledgerName) :
    catalog.prepared.isTaken name = catalog.isTaken name := by
  have hAdded : (catalog.extended [.createTable ledgerName]).isTaken name = catalog.isTaken name :=
    isTaken_extended_singleton hName
  unfold Catalog.prepared
  split
  · rw [← hAdded]
    simp [Catalog.isTaken, Catalog.hasTable, Catalog.hasIndex, Catalog.extended, Statement.table?,
      Statement.index?]
  · rfl

private theorem newer_spares_ledger : ∀ statement ∈ catalog.newer.flatMap Migration.statements,
    folded statement.name ≠ folded ledgerName := by
  intro statement hStatement
  obtain ⟨migration, hMigration, hInside⟩ := List.mem_flatMap.1 hStatement
  refine migrations_spare_ledger statement (List.mem_flatMap.2 ⟨migration, ?_, hInside⟩)
  exact newer_sublist.mem hMigration

/-- With its table of versions, a catalog gets the migrations that it lacks. -/
private theorem ensure_of_ledger {prepared : Catalog} {recorded : List Int}
    (hWith : catalog.withLedger = .ok prepared) (hLedger : prepared.ledger = .versions recorded) :
    ensure catalog = applyAll prepared.newer prepared := by
  have hVersion : prepared.version? = some (Catalog.newest prepared.versions) := by
    rw [Catalog.version?, Catalog.recorded?, hLedger, versions_of_ledger hLedger]
    rfl
  simp only [ensure, hWith, hVersion, pending_newest]

theorem applied_of_ledger {prepared : Catalog} {recorded : List Int}
    (hWith : catalog.withLedger = .ok prepared) (hLedger : prepared.ledger = .versions recorded) :
    Applied prepared prepared.newer (ensure catalog) := by
  rw [ensure_of_ledger hWith hLedger]
  refine applied_applyAll newer_namesDiffer hLedger newer_nodup ?_
  rw [← versions_of_ledger hLedger]
  exact newer_not_recorded

/-- A catalog without usable table of versions is left alone; any other gets its newer
migrations. -/
theorem ensure_cases (hConsistent : catalog.Consistent) :
    (∃ error, catalog.Unversioned error ∧ ensure catalog = (.error error, catalog)) ∨
      Applied catalog.prepared catalog.newer (ensure catalog) := by
  rw [← newer_prepared]
  cases hLedger : catalog.ledger with
  | absent =>
      have hTable : catalog.hasTable ledgerName = false := by
        rw [← Bool.not_eq_true]
        exact fun hTable => hConsistent.1 hTable hLedger
      have hPrepared : catalog.prepared =
          { catalog with tables := catalog.tables ++ [ledgerName], ledger := .versions [] } :=
        if_pos hLedger
      by_cases hIndex : catalog.hasIndex ledgerName = true
      · refine .inl ⟨_, .taken hLedger hIndex, ?_⟩
        simp [ensure, Catalog.withLedger, Catalog.addTable, hTable, hIndex, Except.map]
      · have hWith : catalog.withLedger = .ok catalog.prepared := by
          simp [Catalog.withLedger, Catalog.addTable, hTable, hIndex, Except.map, hPrepared]
        exact .inr (applied_of_ledger hWith (congrArg Catalog.ledger hPrepared))
  | foreign =>
      have hTable : catalog.hasTable ledgerName = true := hConsistent.2 (by simp [hLedger])
      refine .inl ⟨_, .foreign hLedger, ?_⟩
      simp [ensure, Catalog.withLedger, hTable, Catalog.version?, Catalog.recorded?, hLedger]
  | versions recorded =>
      have hTable : catalog.hasTable ledgerName = true := hConsistent.2 (by simp [hLedger])
      have hPrepared : catalog.prepared = catalog := if_neg (by simp [hLedger])
      have hWith : catalog.withLedger = .ok catalog.prepared := by
        rw [Catalog.withLedger, if_pos hTable, hPrepared]
      exact .inr (applied_of_ledger hWith (hPrepared ▸ hLedger))

private theorem hasTable_prepared (hConsistent : catalog.Consistent) :
    catalog.prepared.hasTable ledgerName = true := by
  unfold Catalog.prepared
  split
  · simp [Catalog.hasTable, sameName]
  · rename_i hThere
    exact hConsistent.2 hThere

private theorem hasTable_migrated {name : String} (applied : List Migration)
    (hTable : catalog.hasTable name = true) : (catalog.migrated applied).hasTable name = true := by
  obtain ⟨table, hMember, hSame⟩ := List.any_eq_true.1 hTable
  exact List.any_eq_true.2 ⟨table, List.mem_append_left _ hMember, hSame⟩

private theorem consistent_migrated (hConsistent : catalog.Consistent) (applied : List Migration) :
    (catalog.prepared.migrated applied).Consistent :=
  iff_of_true (hasTable_migrated applied (hasTable_prepared hConsistent)) nofun

/-- What has been brought up to date is left as it is. -/
theorem ensure_migrated (hConsistent : catalog.Consistent) :
    ensure (catalog.prepared.migrated catalog.newer) =
      (.ok (), catalog.prepared.migrated catalog.newer) := by
  have hWith : (catalog.prepared.migrated catalog.newer).withLedger =
      .ok (catalog.prepared.migrated catalog.newer) :=
    if_pos (hasTable_migrated _ (hasTable_prepared hConsistent))
  have hNewer : catalog.prepared.newer = catalog.newer := newer_prepared
  rw [ensure_of_ledger hWith rfl, ← hNewer, newer_migrated]
  rfl

theorem consistent_ensure (hConsistent : catalog.Consistent) : (ensure catalog).2.Consistent := by
  rcases ensure_cases hConsistent with ⟨error, -, hSame⟩ | hApplied
  · rw [hSame]
    exact hConsistent
  · generalize ensure catalog = result at hApplied
    cases hApplied with
    | all hFree => exact consistent_migrated hConsistent _
    | upTo hSplit hName hTaken => exact consistent_migrated hConsistent _

/-- An initial segment of the migrations grows by the next ones. -/
private theorem hasFirstMigrations_migrated (hFirst : catalog.HasFirstMigrations)
    {done later : List Migration} (hNewer : catalog.newer = done ++ later) :
    (catalog.prepared.migrated done).HasFirstMigrations := by
  obtain ⟨rest, hRest⟩ := hFirst
  obtain ⟨first, others, hSplit, hRecorded, -⟩ := List.map_eq_append_iff.1 hRest.symm
  have hOthers := newer_of_first hSplit hRecorded.symm
  have hVersions : (catalog.prepared.migrated done).versions =
      catalog.versions ++ done.map Migration.version :=
    congrArg (· ++ done.map Migration.version) versions_prepared
  rw [Catalog.HasFirstMigrations, hVersions, ← hRecorded, ← List.map_append, hSplit, ← hOthers,
    hNewer, ← List.append_assoc]
  exact (List.prefix_append _ _).map _

theorem hasFirstMigrations_ensure (hConsistent : catalog.Consistent)
    (hFirst : catalog.HasFirstMigrations) : (ensure catalog).2.HasFirstMigrations := by
  rcases ensure_cases hConsistent with ⟨error, -, hSame⟩ | hApplied
  · rw [hSame]
    exact hFirst
  · generalize ensure catalog = result at hApplied
    cases hApplied with
    | all hFree => exact hasFirstMigrations_migrated hFirst (List.append_nil _).symm
    | upTo hSplit hName hTaken => exact hasFirstMigrations_migrated hFirst hSplit

/-- By induction on the number of times. -/
private theorem hasFirstMigrations_iterate (count : Nat) :
    ((fun catalog => (ensure catalog).2)^[count] Catalog.empty).Consistent ∧
      ((fun catalog => (ensure catalog).2)^[count] Catalog.empty).HasFirstMigrations := by
  induction count with
  | zero =>
      refine ⟨iff_of_false nofun fun hThere => hThere rfl, List.nil_prefix⟩
  | succ count ih =>
      rw [Function.iterate_succ_apply']
      exact ⟨consistent_ensure ih.1, hasFirstMigrations_ensure ih.1 ih.2⟩

/-- A database that is brought up to date has got all that it lacked, in names that were free, and
nothing else; to do it again changes nothing.  Where that fails, the database either has no usable
table of versions and is left alone, or has got the migrations before the first one with a name
that is taken, and nothing of that one and of those after it.  If the first migrations were on
record, so they are afterwards, as in a new database however often this is done. -/
theorem ensure_applies_newer_migrations (catalog : Catalog) (hConsistent : catalog.Consistent) :
    (∀ after, ensure catalog = (.ok (), after) →
      catalog.IsFreeFor catalog.newer ∧ after = catalog.prepared.migrated catalog.newer ∧
        ensure after = (.ok (), after)) ∧
    (∀ error after, ensure catalog = (.error error, after) →
      (catalog.Unversioned error ∧ after = catalog) ∨
        ∃ done failing later clash, catalog.newer = done ++ failing :: later ∧
          error = .migration failing.version clash ∧
          clash.name ∈ failing.statements.map Statement.name ∧
          catalog.isTaken clash.name = true ∧ after = catalog.prepared.migrated done) ∧
    (catalog.HasFirstMigrations → (ensure catalog).2.HasFirstMigrations) ∧
    ∀ count, ((fun catalog => (ensure catalog).2)^[count] Catalog.empty).HasFirstMigrations := by
  refine ⟨fun after hOk => ?_, fun error after hError => ?_,
    hasFirstMigrations_ensure hConsistent, fun count => (hasFirstMigrations_iterate count).2⟩
  · rcases ensure_cases hConsistent with ⟨error, -, hFailed⟩ | hApplied
    · rw [hOk] at hFailed
      cases hFailed
    · rw [hOk] at hApplied
      cases hApplied with
      | all hFree =>
          refine ⟨fun statement hStatement => ?_, rfl, ensure_migrated hConsistent⟩
          rw [← isTaken_prepared (newer_spares_ledger statement hStatement)]
          exact hFree statement hStatement
  · rcases ensure_cases hConsistent with ⟨other, hUnversioned, hFailed⟩ | hApplied
    · rw [hError] at hFailed
      cases hFailed
      exact .inl ⟨hUnversioned, rfl⟩
    · rw [hError] at hApplied
      cases hApplied with
      | @upTo done later failing clash hSplit hName hTaken =>
          refine .inr ⟨done, failing, later, clash, hSplit, rfl, hName, ?_, rfl⟩
          obtain ⟨statement, hStatement, hSame⟩ := List.mem_map.1 hName
          have hNeeded : statement ∈ catalog.newer.flatMap Migration.statements := by
            rw [hSplit]
            exact List.mem_flatMap.2 ⟨failing, by simp, hStatement⟩
          rw [← isTaken_prepared (hSame ▸ newer_spares_ledger statement hNeeded)]
          exact hTaken

end Ensuring

/-- A database with a table of its own under a name that the second migration needs. -/
def foreignUnits : Catalog :=
  { tables := ["Units"], indexes := [], ledger := .absent }

private theorem ensure_foreignUnits :
    ensure foreignUnits = (.error (.migration 2 (.tableExists "units")),
      foreignUnits.prepared.migrated (migrations.take 1)) := by
  decide

/-- It gets the first migration, and nothing of the second. -/
theorem ensure_applies_first_beside_foreignUnits :
    foreignUnits.Consistent ∧ ∃ done failing later clash,
      foreignUnits.newer = done ++ failing :: later ∧
        (StoreError.migration 2 (.tableExists "units")) = .migration failing.version clash ∧
        clash.name ∈ failing.statements.map Statement.name ∧
        foreignUnits.isTaken clash.name = true ∧
        foreignUnits.prepared.migrated (migrations.take 1) = foreignUnits.prepared.migrated done := by
  have hConsistent : foreignUnits.Consistent := by
    unfold Catalog.Consistent
    decide
  obtain ⟨-, hFails, -⟩ := ensure_applies_newer_migrations foreignUnits hConsistent
  refine ⟨hConsistent, (hFails _ _ ensure_foreignUnits).resolve_left ?_⟩
  rintro ⟨hUnversioned, -⟩
  cases hUnversioned

end LawnCalibration.Schema
