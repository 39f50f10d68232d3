import LawnCalibration.Proofs.Store.Inventory

/-
Reading rows back that were written.

An instant outside of the years of four digits has a text that is never read
again.  Such a text is the only thing in a written row that can make reading
fail, and the failure says which text it is.
-/

set_option autoImplicit false

namespace LawnCalibration.Store

open Calendar (Instant)

variable {ρ α β : Type}

def IsFar (text : String) : Prop :=
  ∃ instant : Instant, ¬ instant.date.HasFourDigits ∧ text = instantText instant

theorem isFar_instantText_iff {instant : Instant} :
    IsFar (instantText instant) ↔ ¬ instant.date.HasFourDigits := by
  constructor
  · rintro ⟨other, hOther, hSame⟩ hYear
    have hRead : readInstant "" (instantText other) = .ok instant :=
      hSame ▸ readInstant_instantText hYear
    exact hOther (readInstant_instantText_eq_ok_iff.1 hRead).1
  · exact fun hYear => ⟨instant, hYear, rfl⟩

/-! ### Outcomes of reading -/

/-- An outcome of reading some texts of times: a value if none of them is far, and else the failure
that names one that is. -/
inductive ReadsBack (texts : List String) : Except StoreError α → Prop
  | ok (value : α) (hNear : ∀ text ∈ texts, ¬ IsFar text) : ReadsBack texts (.ok value)
  | far {column text : String} (reason : Calendar.ReadError) (hText : text ∈ texts)
      (hFar : IsFar text) : ReadsBack texts (.error (.corrupt column text (.timestamp reason)))

namespace ReadsBack

variable {texts others : List String}

theorem pure (value : α) : ReadsBack [] (Except.ok value : Except StoreError α) :=
  .ok value (List.forall_mem_nil _)

private theorem congr {outcome : Except StoreError α} (hReads : ReadsBack texts outcome)
    (hSame : ∀ text, text ∈ texts ↔ text ∈ others) : ReadsBack others outcome := by
  cases hReads with
  | ok value hNear => exact .ok value fun text hText => hNear text ((hSame text).2 hText)
  | far reason hText hFar => exact .far reason ((hSame _).1 hText) hFar

theorem bind {first : Except StoreError α} {next : α → Except StoreError β}
    (hFirst : ReadsBack texts first)
    (hNext : ∀ value, first = .ok value → ReadsBack others (next value)) :
    ReadsBack (texts ++ others) (first >>= next) := by
  cases hFirst with
  | ok value hNear =>
      have hRest := hNext value rfl
      change ReadsBack (texts ++ others) (next value)
      generalize next value = outcome at hRest ⊢
      cases hRest with
      | ok other hOthers => exact .ok other (List.forall_mem_append.2 ⟨hNear, hOthers⟩)
      | far reason hText hFar => exact .far reason (List.mem_append_right _ hText) hFar
  | far reason hText hFar => exact .far reason (List.mem_append_left _ hText) hFar

theorem map {outcome : Except StoreError α} (hReads : ReadsBack texts outcome) (f : α → β) :
    ReadsBack texts (outcome.map f) := by
  cases hReads with
  | ok value hNear => exact .ok (f value) hNear
  | far reason hText hFar => exact .far reason hText hFar

theorem isOk_iff {outcome : Except StoreError α} (hReads : ReadsBack texts outcome) :
    (∃ value, outcome = .ok value) ↔ ∀ text ∈ texts, ¬ IsFar text := by
  cases hReads with
  | ok value hNear => exact iff_of_true ⟨value, rfl⟩ hNear
  | far reason hText hFar =>
      refine iff_of_false (fun hOk => ?_) fun hNear => hNear _ hText hFar
      obtain ⟨value, hValue⟩ := hOk
      cases hValue

theorem of_error {error : StoreError}
    (hReads : ReadsBack texts (Except.error error : Except StoreError α)) :
    ∃ text ∈ texts, IsFar text ∧ ∃ column reason, error = .corrupt column text (.timestamp reason) := by
  cases hReads with
  | far reason hText hFar => exact ⟨_, hText, hFar, _, reason, rfl⟩

theorem identifier {kind : Kind} (column : String) (id : Identifier kind) :
    ReadsBack [] (readIdentifier column id.text : Except StoreError (Identifier kind)) := by
  rw [readIdentifier_text]
  exact .pure id

theorem instant (column : String) (time : Instant) :
    ReadsBack [instantText time] (readInstant column (instantText time)) := by
  cases hRead : readInstant column (instantText time) with
  | ok found =>
      have hYear := (readInstant_instantText_eq_ok_iff.1 hRead).1
      refine .ok found (List.forall_mem_singleton.2 fun hFar => ?_)
      exact isFar_instantText_iff.1 hFar hYear
  | error error =>
      have hYear : ¬ time.date.HasFourDigits := fun hYear => by
        rw [readInstant_instantText hYear] at hRead
        cases hRead
      unfold readInstant at hRead
      split at hRead
      · cases hRead
      · rename_i reason _
        obtain rfl := Except.error.inj hRead
        exact .far reason (List.mem_singleton_self _) (isFar_instantText_iff.2 hYear)

theorem instant? (column : String) (time : Option Instant) :
    ReadsBack (time.map instantText).toList (readInstant? column (time.map instantText)) := by
  cases time with
  | none => exact .pure none
  | some time => exact (instant column time).map some

theorem real {index : Nat} {column : String} {value : Float} (hNumber : value.isNaN = false) :
    ReadsBack [] (readReal index column (storedReal value)) := by
  rw [readReal_storedReal_eq_ok_iff.2 ⟨hNumber, rfl⟩]
  exact .pure _

private theorem word32 {index : Nat} {column : String} (area : UInt32) :
    ReadsBack [] (readWord32 index column (.integer area.toNat)) := by
  rw [readWord32_toNat]
  exact .pure area

section Tables

variable {texts : ρ → List String} {decode : ρ → Except StoreError α}

/-- By induction on the rows: the first that cannot be read makes the list fail. -/
theorem mapM {rows : List ρ} (hRows : ∀ row ∈ rows, ReadsBack (texts row) (decode row)) :
    ReadsBack (rows.flatMap texts) (rows.mapM decode) := by
  induction rows with
  | nil => exact .pure []
  | cons row rows ih =>
      obtain ⟨hFirst, hRest⟩ := List.forall_mem_cons.1 hRows
      rw [List.mapM_cons, List.flatMap_cons]
      refine hFirst.bind fun value _ => ?_
      rw [← List.append_nil (rows.flatMap texts)]
      exact (ih hRest).bind fun values _ => .pure (value :: values)

theorem decodeRow {found : Option ρ}
    (hFound : ∀ row ∈ found, ReadsBack (texts row) (decode row)) :
    ReadsBack (found.toList.flatMap texts) (decodeRow decode found) := by
  cases found with
  | none => exact .pure none
  | some row =>
      rw [Option.toList_some, List.flatMap_singleton]
      exact (hFound row rfl).map some

theorem findRow {column : ρ → String} {key : String} {rows : List ρ}
    (hRows : ∀ row ∈ rows, ReadsBack (texts row) (decode row)) :
    ReadsBack ((findRow column key rows).toList.flatMap texts)
      (Store.decodeRow decode (Store.findRow column key rows)) :=
  decodeRow fun row hRow => hRows row (mem_of_findRow hRow).1

theorem sortedBy {column : ρ → String} {rows : List ρ}
    (hRows : ∀ row ∈ rows, ReadsBack (texts row) (decode row)) :
    ReadsBack (rows.flatMap texts) ((sortedBy column rows).mapM decode) := by
  have hSorted : ∀ row ∈ Store.sortedBy column rows, ReadsBack (texts row) (decode row) :=
    fun row hRow => hRows row (mem_sortedBy.1 hRow)
  refine (mapM hSorted).congr fun text => ?_
  simp only [List.mem_flatMap, mem_sortedBy]

theorem sortedNumbered {column : ρ → String} {number : ρ → Int} {rows : List ρ}
    (hRows : ∀ row ∈ rows, ReadsBack (texts row) (decode row)) :
    ReadsBack (rows.flatMap texts) ((sortedNumbered column number rows).mapM decode) := by
  have hSorted : ∀ row ∈ Store.sortedNumbered column number rows,
      ReadsBack (texts row) (decode row) := fun row hRow => hRows row (mem_sortedNumbered.1 hRow)
  refine (mapM hSorted).congr fun text => ?_
  simp only [List.mem_flatMap, mem_sortedNumbered]

end Tables
end ReadsBack

namespace Row

def times : Row → List String
  | .unit row => [row.createdAt, row.updatedAt]
  | .formulation row => [row.createdAt, row.updatedAt]
  | .lawnService row => [row.createdAt, row.updatedAt]
  | .log row => row.createdAt :: row.updatedAt :: row.deletedAt.toList
  | .record row => [row.createdAt, row.updatedAt]

/-- A row that was written for some entity, all of its times among those given. -/
inductive Written (times : List Instant) : Row → Prop
  | unit (number : Int) (value : MeasureUnit)
      (hTimes : ∀ time ∈ [value.createdAt, value.updatedAt], time ∈ times) :
      Written times (.unit (.ofUnit number value))
  | formulation (number : Int) (value : Formulation)
      (hTimes : ∀ time ∈ [value.createdAt, value.updatedAt], time ∈ times) :
      Written times (.formulation (.ofFormulation number value))
  | lawnService (number : Int) (value : LawnService)
      (hNumber : value.targetCalibrationValue.isNaN = false)
      (hTimes : ∀ time ∈ [value.createdAt, value.updatedAt], time ∈ times) :
      Written times (.lawnService (.ofLawnService number value))
  | log (number : Int) (value : CalibrationLog)
      (hTimes : ∀ time ∈ value.createdAt :: value.updatedAt :: value.deletedAt.toList,
        time ∈ times) :
      Written times (.log (.ofLog number value))
  | record (number : Int) (value : CalibrationRecord)
      (hNumber : value.measurementValue.isNaN = false)
      (hTimes : ∀ time ∈ [value.createdAt, value.updatedAt], time ∈ times) :
      Written times (.record (.ofRecord number value))

variable {times : List Instant} {row : Row}

theorem Written.mono {others : List Instant} (hWritten : row.Written times)
    (hSubset : ∀ time ∈ times, time ∈ others) : row.Written others := by
  cases hWritten with
  | unit number value hTimes => exact .unit number value fun time h => hSubset time (hTimes time h)
  | formulation number value hTimes =>
      exact .formulation number value fun time h => hSubset time (hTimes time h)
  | lawnService number value hNumber hTimes =>
      exact .lawnService number value hNumber fun time h => hSubset time (hTimes time h)
  | log number value hTimes => exact .log number value fun time h => hSubset time (hTimes time h)
  | record number value hNumber hTimes =>
      exact .record number value hNumber fun time h => hSubset time (hTimes time h)

end Row

section Rows

variable {times : List Instant}

theorem readsBack_unit {row : UnitRow} (hWritten : (Row.unit row).Written times) :
    ReadsBack (Row.unit row).times row.toUnit := by
  cases hWritten with
  | unit number value hTimes =>
      refine (ReadsBack.instant _ value.createdAt).bind fun created _ => ?_
      exact (ReadsBack.instant _ value.updatedAt).bind fun updated _ => .pure _

theorem readsBack_formulation {row : FormulationRow} (hWritten : (Row.formulation row).Written times) :
    ReadsBack (Row.formulation row).times row.toFormulation := by
  cases hWritten with
  | formulation number value hTimes =>
      refine (ReadsBack.identifier _ value.id).bind fun id _ => ?_
      refine (ReadsBack.instant _ value.createdAt).bind fun created _ => ?_
      exact (ReadsBack.instant _ value.updatedAt).bind fun updated _ => .pure _

theorem readsBack_lawnService {row : LawnServiceRow}
    (hWritten : (Row.lawnService row).Written times) :
    ReadsBack (Row.lawnService row).times row.toLawnService := by
  cases hWritten with
  | lawnService number value hNumber hTimes =>
      refine (ReadsBack.real hNumber).bind fun target _ => ?_
      refine (ReadsBack.identifier _ value.id).bind fun id _ => ?_
      refine (ReadsBack.identifier _ value.formulationId).bind fun formulation _ => ?_
      refine (ReadsBack.instant _ value.createdAt).bind fun created _ => ?_
      exact (ReadsBack.instant _ value.updatedAt).bind fun updated _ => .pure _

theorem readsBack_log {row : LogRow} (hWritten : (Row.log row).Written times) :
    ReadsBack (Row.log row).times row.toLog := by
  cases hWritten with
  | log number value hTimes =>
      refine (ReadsBack.identifier _ value.id).bind fun id _ => ?_
      refine (ReadsBack.identifier _ value.userId).bind fun user _ => ?_
      refine (ReadsBack.identifier _ value.lawnServiceId).bind fun service _ => ?_
      refine (ReadsBack.instant _ value.createdAt).bind fun created _ => ?_
      refine (ReadsBack.instant _ value.updatedAt).bind fun updated _ => ?_
      change ReadsBack (value.deletedAt.map instantText).toList _
      rw [← List.append_nil (value.deletedAt.map instantText).toList]
      exact (ReadsBack.instant? _ value.deletedAt).bind fun deleted _ => .pure _

theorem readsBack_record {row : RecordRow} (hWritten : (Row.record row).Written times) :
    ReadsBack (Row.record row).times row.toRecord := by
  cases hWritten with
  | record number value hNumber hTimes =>
      refine (ReadsBack.real hNumber).bind fun amount _ => ?_
      refine (ReadsBack.word32 value.measurementArea).bind fun area _ => ?_
      refine (ReadsBack.identifier _ value.id).bind fun id _ => ?_
      refine (ReadsBack.identifier _ value.calibrationLogId).bind fun log _ => ?_
      refine (ReadsBack.instant _ value.createdAt).bind fun created _ => ?_
      exact (ReadsBack.instant _ value.updatedAt).bind fun updated _ => .pure _

/-- Every time in a written row has the text of a time that it was written with. -/
theorem Row.Written.mem_times {row : Row} (hWritten : row.Written times) :
    ∀ text ∈ row.times, ∃ time ∈ times, text = instantText time := by
  have hTexts : ∀ moments : List Instant, (∀ time ∈ moments, time ∈ times) →
      ∀ text ∈ moments.map instantText, ∃ time ∈ times, text = instantText time := by
    intro moments hTimes text hText
    obtain ⟨time, hTime, rfl⟩ := List.mem_map.1 hText
    exact ⟨time, hTimes time hTime, rfl⟩
  cases hWritten with
  | unit number value hTimes => exact hTexts _ hTimes
  | formulation number value hTimes => exact hTexts _ hTimes
  | lawnService number value hNumber hTimes => exact hTexts _ hTimes
  | log number value hTimes =>
      have hSame : (Row.log (LogRow.ofLog number value)).times =
          (value.createdAt :: value.updatedAt :: value.deletedAt.toList).map instantText := by
        cases hDeleted : value.deletedAt <;> simp [Row.times, LogRow.ofLog, hDeleted]
      rw [hSame]
      exact hTexts _ hTimes
  | record number value hNumber hTimes => exact hTexts _ hTimes

end Rows
end LawnCalibration.Store
