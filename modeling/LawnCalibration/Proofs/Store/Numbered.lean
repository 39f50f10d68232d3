import LawnCalibration.Proofs.Calendar.Timestamp
import LawnCalibration.Proofs.Store.Table
import LawnCalibration.Store.Row

/-
Tables in numbered rows, read in the order of creation.

Beside such a table stands the list of its entities in the order of insertion.
Both follow insertions, changes and deletions alike, and what is read from the
table is that list in the order of time.
-/

set_option autoImplicit false

namespace LawnCalibration.Store

open Calendar (Instant)

variable {ρ α : Type}

/-- Entities in the order of their times; those of one instant keep their order. -/
def earliestFirst (time : α → Instant) (entities : List α) : List α :=
  entities.mergeSort fun first second => decide (time first ≤ time second)

section Times

variable {time : α → Instant} {entities : List α}

theorem earliestFirst_perm : (earliestFirst time entities).Perm entities :=
  List.mergeSort_perm entities _

private theorem isEarlier_trans (a b c : α) (hFirst : decide (time a ≤ time b) = true)
    (hSecond : decide (time b ≤ time c) = true) : decide (time a ≤ time c) = true := by
  rw [decide_eq_true_iff] at *
  exact Instant.le_trans hFirst hSecond

private theorem isEarlier_total (a b : α) :
    (decide (time a ≤ time b) || decide (time b ≤ time a)) = true := by
  rw [Bool.or_eq_true, decide_eq_true_iff, decide_eq_true_iff]
  exact Instant.le_total (time a) (time b)

theorem pairwise_earliestFirst :
    (earliestFirst time entities).Pairwise fun first second => time first ≤ time second := by
  have hSorted : (earliestFirst time entities).Pairwise
      fun first second => decide (time first ≤ time second) = true :=
    List.pairwise_mergeSort isEarlier_trans isEarlier_total entities
  exact hSorted.imp of_decide_eq_true

/-- The entities of one instant stand as they were inserted: they are a sublist of both lists. -/
theorem filter_earliestFirst (moment : Instant) :
    (earliestFirst time entities).filter (fun entity => time entity = moment) =
      entities.filter fun entity => time entity = moment := by
  have hSame : (entities.filter fun entity => time entity = moment).Pairwise
      fun first second => decide (time first ≤ time second) = true := by
    apply List.pairwise_of_forall_mem_list
    intro first hFirst second hSecond
    have hFirstTime := of_decide_eq_true (List.mem_filter.1 hFirst).2
    have hSecondTime := of_decide_eq_true (List.mem_filter.1 hSecond).2
    rw [hFirstTime, hSecondTime]
    exact decide_eq_true moment.le_refl
  have hSublist := List.sublist_mergeSort isEarlier_trans isEarlier_total hSame List.filter_sublist
  have hWithin := hSublist.filter fun entity => decide (time entity = moment)
  simp only [List.filter_filter, Bool.and_self] at hWithin
  exact (hWithin.eq_of_length (earliestFirst_perm.filter _).length_eq.symm).symm

end Times

/-- How entities stand in a table, and what is read from their rows. -/
structure Numbered (ρ α : Type) where
  toRow : Int → α → ρ
  number : ρ → Int
  createdAt : ρ → String
  read : ρ → Except StoreError α
  time : α → Instant
  /-- an entity as it is read back -/
  kept : α → α
  number_toRow : ∀ n entity, number (toRow n entity) = n
  createdAt_toRow : ∀ n entity, createdAt (toRow n entity) = instantText (time entity)
  toRow_kept : ∀ n entity, toRow n (kept entity) = toRow n entity
  kept_kept : ∀ entity, kept (kept entity) = kept entity
  read_toRow : ∀ {n entity found}, read (toRow n entity) = .ok found →
    (time entity).date.HasFourDigits ∧ kept entity = found

namespace Numbered

variable (table : Numbered ρ α)

def rowOf (entry : Int × α) : ρ :=
  table.toRow entry.1 entry.2

/-- Rows hold entities as they are read back, in the order of their numbers. -/
def Holds (rows : List ρ) (entities : List α) : Prop :=
  (∀ entity ∈ entities, table.kept entity = entity) ∧ ∃ entries : List (Int × α),
    entries.Pairwise (fun first second => first.1 < second.1) ∧
      rows = entries.map table.rowOf ∧ entities = entries.map Prod.snd

variable {table} {rows : List ρ} {entities : List α}

theorem holds_nil : table.Holds [] [] :=
  ⟨List.forall_mem_nil _, [], .nil, rfl, rfl⟩

theorem Holds.concat (hHolds : table.Holds rows entities) (entity : α) :
    table.Holds (rows ++ [table.toRow (nextNumber table.number rows) entity])
      (entities ++ [table.kept entity]) := by
  obtain ⟨hKept, entries, hOrdered, hRows, rfl⟩ := hHolds
  refine ⟨forall_mem_concat hKept (table.kept_kept entity),
    entries ++ [(nextNumber table.number rows, table.kept entity)], ?_, ?_, ?_⟩
  · rw [List.pairwise_append]
    refine ⟨hOrdered, List.pairwise_singleton _ _, ?_⟩
    intro entry hEntry last hLast
    have hRow : table.rowOf entry ∈ rows := hRows ▸ List.mem_map_of_mem hEntry
    have hNumber : entry.1 < nextNumber table.number rows := by
      have hBelow : table.number (table.rowOf entry) < nextNumber table.number rows :=
        lt_nextNumber hRow
      rw [rowOf, table.number_toRow] at hBelow
      exact hBelow
    rw [List.mem_singleton.1 hLast]
    exact hNumber
  · rw [List.map_append, ← hRows, List.map_singleton, rowOf, table.toRow_kept]
  · rw [List.map_append]
    rfl

/-- A change of chosen rows is the same change of the entities that they hold. -/
theorem Holds.change (hHolds : table.Holds rows entities) {isChosen : ρ → Bool} {picks : α → Bool}
    {changeRow : ρ → ρ} {change : α → α}
    (hChosen : ∀ n entity, isChosen (table.toRow n entity) = picks entity)
    (hChange : ∀ n entity, changeRow (table.toRow n entity) = table.toRow n (change entity))
    (hKeeps : ∀ entity, table.kept (change entity) = change (table.kept entity)) :
    table.Holds (changeRows isChosen changeRow rows)
      (entities.map fun entity => if picks entity then change entity else entity) := by
  obtain ⟨hKept, entries, hOrdered, rfl, rfl⟩ := hHolds
  refine ⟨?_, entries.map fun entry =>
    (entry.1, if picks entry.2 then change entry.2 else entry.2), ?_, ?_, ?_⟩
  · intro entity hEntity
    obtain ⟨old, hOld, rfl⟩ := List.mem_map.1 hEntity
    split
    · rw [hKeeps, hKept old hOld]
    · exact hKept old hOld
  · exact List.pairwise_map.2 hOrdered
  · rw [changeRows, List.map_map, List.map_map]
    refine List.map_congr_left fun entry _ => ?_
    simp only [Function.comp_apply, rowOf, hChosen]
    split
    · exact hChange entry.1 entry.2
    · rfl
  · rw [List.map_map, List.map_map]
    rfl

theorem Holds.filter (hHolds : table.Holds rows entities) {isChosen : ρ → Bool} {picks : α → Bool}
    (hChosen : ∀ n entity, isChosen (table.toRow n entity) = picks entity) :
    table.Holds (rows.filter isChosen) (entities.filter picks) := by
  obtain ⟨hKept, entries, hOrdered, rfl, rfl⟩ := hHolds
  refine ⟨fun entity hEntity => hKept entity (List.mem_of_mem_filter hEntity),
    entries.filter fun entry => picks entry.2, hOrdered.filter _, ?_, ?_⟩
  · rw [List.filter_map]
    refine congrArg (List.map table.rowOf) (List.filter_congr fun entry _ => ?_)
    exact hChosen entry.1 entry.2
  · rw [List.filter_map]
    rfl

section Reading

variable {entries : List (Int × α)}

private def isWrittenBefore (table : Numbered ρ α) (first second : Int × α) : Bool :=
  !decide (instantText (table.time second.2) < instantText (table.time first.2))

private theorem sortedNumbered_entries
    (hOrdered : entries.Pairwise fun first second => first.1 < second.1) :
    sortedNumbered table.createdAt table.number (entries.map table.rowOf) =
      (entries.mergeSort table.isWrittenBefore).map table.rowOf := by
  have hNumbers : (entries.map table.rowOf).Pairwise
      fun first second => table.number first < table.number second := by
    rw [List.pairwise_map]
    refine hOrdered.imp fun {first second} hBelow => ?_
    rw [rowOf, rowOf, table.number_toRow, table.number_toRow]
    exact hBelow
  rw [sortedNumbered_eq_sortedBy hNumbers, sortedBy]
  refine (List.map_mergeSort fun first _ second _ => ?_).symm
  rw [isWrittenBefore, rowOf, rowOf, table.createdAt_toRow, table.createdAt_toRow]

private theorem mapM_entries {found : List α}
    (hRead : (entries.map table.rowOf).mapM table.read = .ok found) :
    (∀ entry ∈ entries, (table.time entry.2).date.HasFourDigits) ∧
      entries.map (fun entry => table.kept entry.2) = found := by
  have hRows := List.forall₂_map_left_iff.1 (forall₂_of_mapM_eq_ok hRead)
  have hEntries : List.Forall₂ (fun entry entity =>
      (table.time entry.2).date.HasFourDigits ∧ table.kept entry.2 = entity) entries found :=
    hRows.imp fun _ _ hEntity => table.read_toRow hEntity
  obtain ⟨hYears, hSame⟩ := (List.forall₂_and_left _ _).1 hEntries
  rw [← List.forall₂_eq_eq_eq, List.forall₂_map_left_iff]
  exact ⟨hYears, hSame⟩

/-- Within the four digits the order of the texts is the order in time. -/
private theorem mergeSort_entries
    (hYears : ∀ entry ∈ entries, (table.time entry.2).date.HasFourDigits) :
    (entries.mergeSort table.isWrittenBefore).map Prod.snd =
      earliestFirst table.time (entries.map Prod.snd) := by
  refine List.map_mergeSort fun first hFirst second hSecond => ?_
  rw [isWrittenBefore, ← decide_not, decide_eq_decide, ← Instant.not_lt, not_iff_not]
  exact Calendar.Timestamp.text_lt_text_iff (hYears second hSecond) (hYears first hFirst)

/-- Rows that are read in the order of creation give the entities in the order of time, and all of
their times have years of four digits. -/
theorem Holds.read_sorted (hHolds : table.Holds rows entities) {found : List α}
    (hRead : (sortedNumbered table.createdAt table.number rows).mapM table.read = .ok found) :
    (∀ entity ∈ entities, (table.time entity).date.HasFourDigits) ∧
      found = earliestFirst table.time entities := by
  obtain ⟨hKept, entries, hOrdered, rfl, rfl⟩ := hHolds
  rw [sortedNumbered_entries hOrdered] at hRead
  obtain ⟨hYears, rfl⟩ := mapM_entries hRead
  have hAll : ∀ entry ∈ entries, (table.time entry.2).date.HasFourDigits := fun entry hEntry =>
    hYears entry (List.mem_mergeSort.2 hEntry)
  refine ⟨List.forall_mem_map.2 hAll, ?_⟩
  rw [← mergeSort_entries hAll]
  refine List.map_congr_left fun entry hEntry => hKept _ (List.mem_map_of_mem ?_)
  exact List.mem_mergeSort.1 hEntry

end Reading
end Numbered
end LawnCalibration.Store
