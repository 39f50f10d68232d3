import LawnCalibration.Store.Table
import Mathlib.Data.List.Forall2
import Mathlib.Data.List.Nodup
import Mathlib.Data.String.Basic

/-
Tables under reads and writes.

What is said of all rows of a table survives an insertion, a change and a
deletion when it holds of the rows that these bring in.
-/

set_option autoImplicit false

namespace LawnCalibration.Store

variable {ρ α β : Type}

theorem holds_eq_true_iff {column : ρ → String} {value : String} {rows : List ρ} :
    holds column value rows = true ↔ value ∈ rows.map column := by
  simp [holds]

theorem holds_eq_false_iff {column : ρ → String} {value : String} {rows : List ρ} :
    holds column value rows = false ↔ value ∉ rows.map column := by
  rw [← holds_eq_true_iff, Bool.not_eq_true]

theorem mem_of_findRow {column : ρ → String} {value : String} {rows : List ρ} {row : ρ}
    (hFind : findRow column value rows = some row) : row ∈ rows ∧ column row = value := by
  refine ⟨List.mem_of_find?_eq_some hFind, ?_⟩
  simpa using List.find?_some hFind

theorem findRow_isSome_iff {column : ρ → String} {value : String} {rows : List ρ} :
    (findRow column value rows).isSome = true ↔ value ∈ rows.map column := by
  simp [findRow, List.find?_isSome]

theorem decodeRow_eq_ok_some_iff {decode : ρ → Except StoreError α} {found : Option ρ} {value : α} :
    decodeRow decode found = .ok (some value) ↔ ∃ row, found = some row ∧ decode row = .ok value := by
  cases found with
  | none => simp [decodeRow]
  | some row => cases hRow : decode row <;> simp [decodeRow, hRow, Except.map]

theorem decodeRow_eq_ok_none_iff {decode : ρ → Except StoreError α} {found : Option ρ} :
    decodeRow decode found = .ok none ↔ found = none := by
  cases found with
  | none => simp [decodeRow]
  | some row => cases hRow : decode row <;> simp [decodeRow, hRow, Except.map]

theorem bind_eq_ok_iff {ε α β : Type} {first : Except ε α} {next : α → Except ε β} {outcome : β} :
    (first >>= next) = .ok outcome ↔ ∃ value, first = .ok value ∧ next value = .ok outcome := by
  cases first with
  | error error => simp [bind, Except.bind]
  | ok value => simp [bind, Except.bind]

theorem forall₂_of_mapM_eq_ok {ε : Type} {decode : ρ → Except ε α} {rows : List ρ} {values : List α}
    (hValues : rows.mapM decode = .ok values) :
    List.Forall₂ (fun row value => decode row = .ok value) rows values := by
  induction rows generalizing values with
  | nil =>
      cases hValues
      exact .nil
  | cons row rows ih =>
      rw [List.mapM_cons] at hValues
      obtain ⟨first, hFirst, hValues⟩ := bind_eq_ok_iff.1 hValues
      obtain ⟨rest, hRest, hValues⟩ := bind_eq_ok_iff.1 hValues
      cases hValues
      exact .cons hFirst (ih hRest)

theorem exists_of_forall₂ {R : α → β → Prop} {values : List α} {others : List β}
    (hAll : List.Forall₂ R values others) {other : β} (hOther : other ∈ others) :
    ∃ value ∈ values, R value other := by
  induction hAll with
  | nil => cases hOther
  | cons hHead hTail ih =>
      rcases List.mem_cons.1 hOther with rfl | hOther
      · exact ⟨_, List.mem_cons_self, hHead⟩
      · obtain ⟨value, hValue, hRelated⟩ := ih hOther
        exact ⟨value, List.mem_cons_of_mem _ hValue, hRelated⟩

theorem mem_of_mapM_eq_ok {decode : ρ → Except StoreError α} {rows : List ρ} {values : List α}
    (hValues : rows.mapM decode = .ok values) {value : α} (hValue : value ∈ values) :
    ∃ row ∈ rows, decode row = .ok value :=
  exists_of_forall₂ (forall₂_of_mapM_eq_ok hValues) hValue

/-- Every row of a list that is read has its value in the answer. -/
theorem exists_of_mapM_eq_ok {decode : ρ → Except StoreError α} {rows : List ρ} {values : List α}
    (hValues : rows.mapM decode = .ok values) {row : ρ} (hRow : row ∈ rows) :
    ∃ value ∈ values, decode row = .ok value :=
  exists_of_forall₂ (forall₂_of_mapM_eq_ok hValues).flip hRow

theorem mem_sortedBy {column : ρ → String} {rows : List ρ} {row : ρ} :
    row ∈ sortedBy column rows ↔ row ∈ rows :=
  List.mem_mergeSort

theorem mem_sortedNumbered {column : ρ → String} {number : ρ → Int} {rows : List ρ} {row : ρ} :
    row ∈ sortedNumbered column number rows ↔ row ∈ rows :=
  List.mem_mergeSort

private theorem merge_congr {first second : ρ → ρ → Bool} {front back : List ρ}
    (hSame : ∀ a ∈ front, ∀ b ∈ back, first a b = second a b) :
    front.merge back first = front.merge back second := by
  simpa only [List.map_id] using List.map_merge (f := id) hSame

/-- A sort compares rows only in the order in which they stand. -/
private theorem mergeSort_congr {first second : ρ → ρ → Bool} {rows : List ρ}
    (hSame : rows.Pairwise fun a b => first a b = second a b) :
    rows.mergeSort first = rows.mergeSort second := by
  induction hLength : rows.length using Nat.strong_induction_on generalizing rows with
  | _ length ih =>
      match rows with
      | [] => simp
      | [row] => simp
      | a :: b :: rows =>
          simp only [List.mergeSort, List.MergeSort.Internal.splitInTwo_fst,
            List.MergeSort.Internal.splitInTwo_snd]
          rw [List.length_cons, List.length_cons] at hLength
          rw [← List.take_append_drop (((a :: b :: rows).length + 1) / 2) (a :: b :: rows),
            List.pairwise_append] at hSame
          obtain ⟨hInFront, hInBack, hAcross⟩ := hSame
          rw [ih _ (by simp; omega) hInFront rfl, ih _ (by simp; omega) hInBack rfl]
          exact merge_congr fun a hA b hB =>
            hAcross a (List.mem_mergeSort.1 hA) b (List.mem_mergeSort.1 hB)

/-- Rows that stand in the order of their numbers are sorted by the column alone. -/
theorem sortedNumbered_eq_sortedBy {column : ρ → String} {number : ρ → Int} {rows : List ρ}
    (hNumbers : rows.Pairwise fun a b => number a < number b) :
    sortedNumbered column number rows = sortedBy column rows := by
  refine mergeSort_congr (hNumbers.imp fun {a b} hNumber => ?_)
  split
  · rename_i hSame
    simp [hSame, Int.le_of_lt hNumber]
  · rename_i hOther
    rw [← decide_not, decide_eq_decide, not_lt]
    exact ⟨le_of_lt, fun hAtMost => lt_of_le_of_ne hAtMost hOther⟩

theorem demand_bind_eq_ok_iff {entity : EntityName} {violation : Violation} {met : Bool}
    {next : Unit → Except StoreError β} {outcome : β} :
    (demand entity violation met >>= next) = .ok outcome ↔ met = true ∧ next () = .ok outcome := by
  cases met with
  | false => simp [demand, bind, Except.bind]
  | true => simp [demand, bind, Except.bind]

section Additions

variable {column : ρ → β} {rows : List ρ} {new : ρ}

theorem forall_mem_concat {P : ρ → Prop} (hRows : ∀ row ∈ rows, P row) (hNew : P new) :
    ∀ row ∈ rows ++ [new], P row := by
  intro row hMember
  rcases List.mem_append.1 hMember with hRow | hRow
  · exact hRows row hRow
  · exact List.mem_singleton.1 hRow ▸ hNew

theorem mem_map_concat {value : β} (hMember : value ∈ rows.map column) :
    value ∈ (rows ++ [new]).map column := by
  rw [List.map_append]
  exact List.mem_append_left _ hMember

theorem nodup_map_concat (hRows : (rows.map column).Nodup) (hNew : column new ∉ rows.map column) :
    ((rows ++ [new]).map column).Nodup := by
  rw [List.map_append, List.map_singleton, List.nodup_append']
  refine ⟨hRows, List.nodup_singleton _, ?_⟩
  rw [List.disjoint_singleton]
  exact hNew

end Additions

section Changes

variable {chosen : ρ → Bool} {change : ρ → ρ} {column : ρ → β} {rows : List ρ}

theorem mem_changeRows_iff {row : ρ} :
    row ∈ changeRows chosen change rows ↔
      ∃ old ∈ rows, (chosen old = true ∧ row = change old) ∨ (chosen old = false ∧ row = old) := by
  simp only [changeRows, List.mem_map]
  refine exists_congr fun old => and_congr_right fun _ => ?_
  cases chosen old <;> simp [eq_comm]

theorem mem_changeRows_of_chosen (change : ρ → ρ) {row : ρ} (hRow : row ∈ rows)
    (hChosen : chosen row = true) : change row ∈ changeRows chosen change rows :=
  mem_changeRows_iff.2 ⟨row, hRow, .inl ⟨hChosen, rfl⟩⟩

theorem forall_mem_changeRows {P : ρ → Prop} (hRows : ∀ row ∈ rows, P row)
    (hChange : ∀ row ∈ rows, chosen row = true → P (change row)) :
    ∀ row ∈ changeRows chosen change rows, P row := by
  intro row hMember
  rcases mem_changeRows_iff.1 hMember with ⟨old, hOld, ⟨hChosen, rfl⟩ | ⟨-, rfl⟩⟩
  · exact hChange old hOld hChosen
  · exact hRows row hOld

/-- A column that no change touches. -/
theorem map_changeRows (hSame : ∀ row, chosen row = true → column (change row) = column row) :
    (changeRows chosen change rows).map column = rows.map column := by
  rw [changeRows, List.map_map]
  refine List.map_congr_left fun row _ => ?_
  simp only [Function.comp_apply]
  split
  · rename_i hChosen
    exact hSame row hChosen
  · rfl

theorem changeRows_eq_self (hNone : ∀ row ∈ rows, chosen row = false) :
    changeRows chosen change rows = rows := by
  refine (List.map_congr_left fun row hRow => ?_).trans (List.map_id rows)
  simp [hNone row hRow]

end Changes

/-- One row, known by its key, gets a value that no other row has. -/
theorem nodup_map_changeRows {key : ρ → String} {column : ρ → String} {change : ρ → ρ}
    {rows : List ρ} {value current : String} (hKeys : (rows.map key).Nodup)
    (hRows : (rows.map column).Nodup) (hChange : ∀ row, column (change row) = value)
    (hOthers : ∀ row ∈ rows, column row = value → key row = current) :
    ((changeRows (fun row => key row == current) change rows).map column).Nodup := by
  induction rows with
  | nil => exact List.nodup_nil
  | cons row rows ih =>
      rw [List.map_cons, List.nodup_cons] at hKeys hRows
      have hTail := ih hKeys.2 hRows.2 fun other hOther => hOthers other (List.mem_cons_of_mem row hOther)
      simp only [changeRows, List.map_cons, List.nodup_cons] at hTail ⊢
      refine ⟨?_, hTail⟩
      intro hMember
      obtain ⟨changed, hChanged, hSame⟩ := List.mem_map.1 hMember
      rcases mem_changeRows_iff.1 hChanged with ⟨other, hOther, hCases⟩
      have hKey : key row = key other → False := fun hEq =>
        hKeys.1 (hEq ▸ List.mem_map_of_mem hOther)
      rcases hCases with ⟨hChosen, rfl⟩ | ⟨hChosen, rfl⟩
      · rw [beq_iff_eq] at hChosen
        rw [hChange] at hSame
        split at hSame
        · rename_i hRow
          exact hKey ((beq_iff_eq.1 hRow).trans hChosen.symm)
        · rename_i hRow
          exact hKey ((hOthers row List.mem_cons_self hSame.symm).trans hChosen.symm)
      · split at hSame
        · rename_i hRow
          rw [hChange] at hSame
          have hCurrent := hOthers changed (List.mem_cons_of_mem row hOther) hSame
          exact hKey ((beq_iff_eq.1 hRow).trans hCurrent.symm)
        · exact hRows.1 (hSame ▸ List.mem_map_of_mem hOther)

end LawnCalibration.Store
