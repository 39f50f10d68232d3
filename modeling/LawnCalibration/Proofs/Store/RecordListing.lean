import LawnCalibration.Proofs.Store.Legibility
import LawnCalibration.Proofs.Store.LogListing
import LawnCalibration.Proofs.Store.RecordBook

/-
The records of live logs that a filter lists.

They are the rows of a join of the records with the logs that they name.  Asked
for one log, the list is the records of that log, or nothing once it is deleted,
and the list for all logs restricts to it.
-/

set_option autoImplicit false

namespace LawnCalibration

theorem RecordFilter.predicate_conditions (filter : RecordFilter) :
    filter.predicate.conditions = filter.calibrationLogId.toList.map fun id =>
      ⟨"calibration_log_id", .equal, .text id.text⟩ := by
  simp only [predicate, Predicate.ofFields, fields, List.flatMap_cons, List.flatMap_nil,
    Predicate.conditions_identifier "calibration_log_id" (by decide +kernel) (by decide),
    List.append_nil]

namespace Store

theorem selects_recordFilter_iff {filter : RecordFilter} {row : RecordRow} :
    selects filter.predicate (columnsOf RecordRow.columns row) = true ↔
      ∀ id ∈ filter.calibrationLogId, row.calibrationLogId = id.text := by
  have hLog : columnsOf RecordRow.columns row "calibration_log_id" =
      some (.text, .text row.calibrationLogId) := rfl
  unfold selects
  rw [RecordFilter.predicate_conditions]
  simp only [List.all_map, List.all_eq_true, Function.comp_apply, condition?_text hLog,
    Option.getD_some, meets_equal_iff, Option.mem_toList]
  rfl

section Parts

variable {ρ α : Type} {column : ρ → String} {number : ρ → Int} {rows : List ρ}

private theorem stands_before_iff {first second : ρ} :
    (if column first = column second then decide (number first ≤ number second)
      else decide (column first < column second)) = true ↔
      column first < column second ∨
        (column first = column second ∧ number first ≤ number second) := by
  split
  · rename_i hSame
    simp [hSame]
  · rename_i hOther
    simp [hOther]

private theorem pairwise_sortedNumbered :
    (sortedNumbered column number rows).Pairwise fun first second =>
      column first < column second ∨
        (column first = column second ∧ number first ≤ number second) := by
  refine (List.pairwise_mergeSort ?_ ?_ rows).imp stands_before_iff.1
  · intro first second third hFirst hSecond
    rw [stands_before_iff] at hFirst hSecond ⊢
    rcases hFirst with hFirst | ⟨hFirst, hNumber⟩
    · rcases hSecond with hSecond | ⟨hSecond, -⟩
      · exact .inl (hFirst.trans hSecond)
      · exact .inl (hSecond ▸ hFirst)
    · rcases hSecond with hSecond | ⟨hSecond, hLater⟩
      · exact .inl (hFirst ▸ hSecond)
      · exact .inr ⟨hFirst.trans hSecond, Int.le_trans hNumber hLater⟩
  · intro first second
    rw [Bool.or_eq_true, stands_before_iff, stands_before_iff]
    rcases lt_trichotomy (column first) (column second) with hLess | hSame | hLess
    · exact .inl (.inl hLess)
    · rcases Int.le_total (number first) (number second) with hNumber | hNumber
      · exact .inl (.inr ⟨hSame, hNumber⟩)
      · exact .inr (.inr ⟨hSame.symm, hNumber⟩)
    · exact .inr (.inl hLess)

/-- Rows with numbers of their own have one order, in every part of the table. -/
private theorem filter_sortedNumbered (hNumbers : (rows.map number).Nodup) (chosen : ρ → Bool) :
    (sortedNumbered column number rows).filter chosen =
      sortedNumbered column number (rows.filter chosen) := by
  have hPerm : ((sortedNumbered column number rows).filter chosen).Perm
      (sortedNumbered column number (rows.filter chosen)) :=
    ((List.mergeSort_perm rows _).filter chosen).trans (List.mergeSort_perm _ _).symm
  refine hPerm.eq_of_pairwise ?_ (pairwise_sortedNumbered.filter _) pairwise_sortedNumbered
  intro first second hFirst hSecond hBefore hAfter
  have hFirstRow : first ∈ rows := mem_sortedNumbered.1 (List.mem_of_mem_filter hFirst)
  have hSecondRow : second ∈ rows := List.mem_of_mem_filter (mem_sortedNumbered.1 hSecond)
  refine List.inj_on_of_nodup_map hNumbers hFirstRow hSecondRow ?_
  rcases hBefore with hBefore | ⟨hSame, hAtMost⟩
  · rcases hAfter with hAfter | ⟨hSame, -⟩
    · exact absurd hAfter hBefore.asymm
    · exact absurd hSame hBefore.ne'
  · rcases hAfter with hAfter | ⟨-, hAtLeast⟩
    · exact absurd hSame hAfter.ne'
    · exact Int.le_antisymm hAtMost hAtLeast

/-- By induction on the rows: a part of a list that is read gives that part of the answer. -/
private theorem mapM_filter {decode : ρ → Except StoreError α} {values : List α} {chosen : ρ → Bool}
    {picks : α → Bool} (hRead : rows.mapM decode = .ok values)
    (hSame : ∀ row ∈ rows, ∀ value, decode row = .ok value → chosen row = picks value) :
    (rows.filter chosen).mapM decode = .ok (values.filter picks) := by
  induction rows generalizing values with
  | nil =>
      obtain rfl := Except.ok.inj hRead
      rfl
  | cons row rows ih =>
      rw [List.mapM_cons] at hRead
      obtain ⟨value, hValue, hRest⟩ := bind_eq_ok_iff.1 hRead
      obtain ⟨others, hOthers, hValues⟩ := bind_eq_ok_iff.1 hRest
      obtain rfl := Except.ok.inj hValues
      have hTail := ih hOthers fun other hOther => hSame other (List.mem_cons_of_mem row hOther)
      rw [List.filter_cons, List.filter_cons, hSame row List.mem_cons_self value hValue]
      split
      · rw [List.mapM_cons, hValue, hTail]
        rfl
      · exact hTail

end Parts

/-! ### Records and the logs that they name -/

/-- Records that are held have numbers of their own. -/
theorem HoldsRecords.numbers {rows : List RecordRow} {records : List CalibrationRecord}
    (hHolds : HoldsRecords rows records) : (rows.map RecordRow.number).Nodup := by
  obtain ⟨-, entries, hOrdered, rfl, -⟩ := hHolds.rows
  rw [List.map_map]
  exact List.pairwise_map.2 (hOrdered.imp fun hBelow => Int.ne_of_lt hBelow)

theorem HoldsRecords.logTexts {rows : List RecordRow} {records : List CalibrationRecord}
    (hHolds : HoldsRecords rows records) :
    ∀ row ∈ rows, ∃ log : CalibrationLogId, row.calibrationLogId = log.text := by
  obtain ⟨-, entries, -, rfl, -⟩ := hHolds.rows
  intro row hRow
  obtain ⟨entry, -, rfl⟩ := List.mem_map.1 hRow
  exact ⟨entry.2.calibrationLogId, rfl⟩

namespace Database

variable {db : Database}

def listedRecords (filter : RecordFilter) (db : Database) : List RecordRow :=
  db.records.filter fun row =>
    db.logs.any (isLiveLog row.calibrationLogId) &&
      selects filter.predicate (columnsOf RecordRow.columns row)

theorem listRecords_eq (filter : RecordFilter) :
    db.listRecords filter = (sortedNumbered RecordRow.createdAt RecordRow.number
      (listedRecords filter db)).mapM RecordRow.toRecord :=
  rfl

theorem mem_of_listedRecords {filter : RecordFilter} {row : RecordRow}
    (hRow : row ∈ listedRecords filter db) : row ∈ db.records :=
  List.mem_of_mem_filter hRow

def joinedRecords (filter : RecordFilter) (db : Database) : List RecordRow :=
  db.records.flatMap fun record =>
    (db.logs.filter fun log => isLiveLog record.calibrationLogId log &&
      selects filter.predicate (columnsOf RecordRow.columns record)).map fun _ => record

/-- A record names one log at most. -/
private theorem map_liveLogs (hIds : (db.logs.map LogRow.id).Nodup) (record : RecordRow) :
    (db.logs.filter (isLiveLog record.calibrationLogId)).map (fun _ => record) =
      if db.logs.any (isLiveLog record.calibrationLogId) then [record] else [] := by
  have hAlike : (db.logs.filter (isLiveLog record.calibrationLogId)).map LogRow.id =
      List.replicate (db.logs.filter (isLiveLog record.calibrationLogId)).length
        record.calibrationLogId := by
    rw [List.map_eq_replicate_iff]
    exact fun log hLog => (isLiveLog_iff.1 (List.mem_filter.1 hLog).2).1
  have hOne : (db.logs.filter (isLiveLog record.calibrationLogId)).length ≤ 1 := by
    rw [← List.nodup_replicate (a := record.calibrationLogId), ← hAlike]
    exact hIds.sublist (List.filter_sublist.map LogRow.id)
  cases hLive : db.logs.any (isLiveLog record.calibrationLogId) with
  | false =>
      have hNone : db.logs.filter (isLiveLog record.calibrationLogId) = [] :=
        List.filter_eq_nil_iff.2 (by simpa using hLive)
      rw [hNone]
      rfl
  | true =>
      obtain ⟨log, hLog, hChosen⟩ := List.any_eq_true.1 hLive
      have hSome := List.length_pos_of_mem (List.mem_filter.2 ⟨hLog, hChosen⟩)
      have hLength : (db.logs.filter (isLiveLog record.calibrationLogId)).length = 1 := by omega
      rw [List.map_const', hLength]
      rfl

/-- The listed rows are those of the join, none of them twice. -/
theorem joinedRecords_eq (hIds : (db.logs.map LogRow.id).Nodup) (filter : RecordFilter) :
    joinedRecords filter db = listedRecords filter db := by
  unfold joinedRecords listedRecords
  induction db.records with
  | nil => rfl
  | cons record records ih =>
      rw [List.flatMap_cons, List.filter_cons, ih]
      cases selects filter.predicate (columnsOf RecordRow.columns record) with
      | false => simp
      | true =>
          simp only [Bool.and_true, map_liveLogs hIds record]
          split
          · rfl
          · rfl

/-- Asked for a live log, the list is that of its records. -/
theorem listRecords_of_live {id : CalibrationLogId}
    (hLive : db.logs.any (isLiveLog id.text) = true) :
    db.listRecords ⟨some id⟩ = db.loadRecords id := by
  have hSame : listedRecords ⟨some id⟩ db =
      db.records.filter fun row => row.calibrationLogId == id.text := by
    refine List.filter_congr fun row _ => ?_
    rw [Bool.eq_iff_iff, Bool.and_eq_true, selects_recordFilter_iff, beq_iff_eq]
    constructor
    · exact fun hChosen => hChosen.2 id rfl
    · intro hId
      refine ⟨hId ▸ hLive, ?_⟩
      rintro other ⟨⟩
      exact hId
  rw [listRecords_eq, hSame]
  rfl

/-- Asked for a log that is deleted or unknown, the list is empty. -/
theorem listRecords_of_not_live {id : CalibrationLogId}
    (hLost : db.logs.any (isLiveLog id.text) = false) : db.listRecords ⟨some id⟩ = .ok [] := by
  have hNone : listedRecords ⟨some id⟩ db = [] := by
    refine List.filter_eq_nil_iff.2 ?_
    intro row _ hChosen
    rw [Bool.and_eq_true, selects_recordFilter_iff] at hChosen
    have hId : row.calibrationLogId = id.text := hChosen.2 id rfl
    rw [hId, hLost] at hChosen
    exact absurd hChosen.1 (by decide)
  have hEmpty : sortedNumbered RecordRow.createdAt RecordRow.number [] = [] := List.mergeSort_nil
  rw [listRecords_eq, hNone, hEmpty]
  rfl

/-- The rows of one log among those of all. -/
private theorem filter_listedRecords (id : CalibrationLogId) :
    (listedRecords ⟨none⟩ db).filter (fun row => row.calibrationLogId == id.text) =
      listedRecords ⟨some id⟩ db := by
  unfold listedRecords
  rw [List.filter_filter]
  refine List.filter_congr fun row _ => ?_
  rw [Bool.eq_iff_iff]
  simp only [Bool.and_eq_true, selects_recordFilter_iff, beq_iff_eq, Option.mem_def, reduceCtorEq,
    false_implies, implies_true, and_true, Option.some.injEq, forall_eq']
  exact and_comm

variable {book : List CalibrationRecord}

/-- The list for all logs restricts to that of each log, in the same order. -/
theorem listRecords_restricted (hHolds : HoldsRecords db.records book)
    {records : List CalibrationRecord} (hList : db.listRecords ⟨none⟩ = .ok records)
    (id : CalibrationLogId) :
    db.listRecords ⟨some id⟩ =
      .ok (records.filter fun record => record.calibrationLogId = id) := by
  have hAlike : ∀ row ∈ sortedNumbered RecordRow.createdAt RecordRow.number
      (listedRecords ⟨none⟩ db), ∀ record, row.toRecord = .ok record →
        (row.calibrationLogId == id.text) = decide (record.calibrationLogId = id) := by
    intro row hRow record hRead
    have hText := eq_text_of_readIdentifier (RecordRow.toRecord_eq_ok hRead).2.1
      (hHolds.logTexts row (mem_of_listedRecords (mem_sortedNumbered.1 hRow)))
    rw [Bool.eq_iff_iff, beq_iff_eq, decide_eq_true_iff, hText]
    exact Identifier.text_inj
  rw [listRecords_eq] at hList ⊢
  have hPart := mapM_filter hList hAlike
  have hNumbers : ((listedRecords ⟨none⟩ db).map RecordRow.number).Nodup :=
    hHolds.numbers.sublist (List.filter_sublist.map RecordRow.number)
  rwa [filter_sortedNumbered hNumbers, filter_listedRecords] at hPart

/-- The list for all logs has the records on file whose logs are live, each of them once. -/
theorem listRecords_perm (hHolds : HoldsRecords db.records book)
    {records : List CalibrationRecord} (hList : db.listRecords ⟨none⟩ = .ok records) :
    records.Perm (book.filter fun record =>
      db.logs.any (isLiveLog record.calibrationLogId.text)) := by
  have hChosen : recordTable.Holds (listedRecords ⟨none⟩ db)
      (book.filter fun record => db.logs.any (isLiveLog record.calibrationLogId.text)) := by
    apply hHolds.rows.filter
    intro number record
    rw [Bool.eq_iff_iff, Bool.and_eq_true, selects_recordFilter_iff]
    exact and_iff_left fun _ hAsked => by cases hAsked
  obtain ⟨-, rfl⟩ := hChosen.read_sorted hList
  exact earliestFirst_perm

/-- The list for all logs is answered just when that of every log is. -/
theorem listRecords_answered_iff (hHolds : HoldsRecords db.records book) :
    (∃ records, db.listRecords ⟨none⟩ = .ok records) ↔
      ∀ id, ∃ records, db.listRecords ⟨some id⟩ = .ok records := by
  constructor
  · rintro ⟨records, hList⟩ id
    exact ⟨_, listRecords_restricted hHolds hList id⟩
  · intro hEach
    refine exists_mapM_eq_ok fun row hRow => ?_
    rw [mem_sortedNumbered] at hRow
    obtain ⟨id, hId⟩ := hHolds.logTexts row (mem_of_listedRecords hRow)
    obtain ⟨records, hList⟩ := hEach id
    have hAsked : row ∈ listedRecords ⟨some id⟩ db := by
      rw [← filter_listedRecords, List.mem_filter, beq_iff_eq]
      exact ⟨hRow, hId⟩
    obtain ⟨record, -, hRead⟩ := exists_of_mapM_eq_ok hList (mem_sortedNumbered.2 hAsked)
    exact ⟨record, hRead⟩

end Database
end Store
end LawnCalibration
