import LawnCalibration.Proofs.Store.Provenance
import LawnCalibration.Proofs.Store.RecordListing
import LawnCalibration.Store.Query

/-
Questions to a database that any requests have filled.

A question is answered unless a row that it takes in holds the text of an
instant outside of the years of four digits.  A request wrote that instant, and
was told that it succeeded.
-/

set_option autoImplicit false

namespace LawnCalibration

open Calendar (Instant)
open Store

namespace Store

variable {ρ : Type}

/-- A query that names columns of the table answers the rows that meet all of its conditions. -/
theorem queryRows_eq_ok {columns : List (Column ρ)} {predicate : Predicate} {rows : List ρ}
    {chosen : ρ → Bool} (hNames : ∀ condition ∈ predicate.conditions,
      isOneOf Statement.reservedWords condition.column = false ∧
        (findColumn columns condition.column).isSome = true) :
    queryRows columns predicate (rows.filter chosen) =
      .ok (rows.filter fun row => chosen row && selects predicate (columnsOf columns row)) := by
  have hOperand : ∀ condition ∈ predicate.conditions, readQualified condition = .column := by
    intro condition hCondition
    rw [readQualified, (hNames condition hCondition).1]
    rfl
  rw [queryRows, selectRows_eq_ok hOperand fun condition hCondition => (hNames condition hCondition).2,
    List.filter_filter]
  exact congrArg Except.ok (List.filter_congr fun row _ => Bool.and_comm _ _)

/-- Every column that a filter of logs compares exists, and its name is no keyword. -/
private theorem logFilter_columns (filter : LogFilter) : ∀ condition ∈ filter.predicate.conditions,
    isOneOf Statement.reservedWords condition.column = false ∧
      (findColumn LogRow.columns condition.column).isSome = true := by
  have hUser : isOneOf Statement.reservedWords "user_id" = false ∧
      (findColumn LogRow.columns "user_id").isSome = true := by decide
  have hService : isOneOf Statement.reservedWords "lawn_service_id" = false ∧
      (findColumn LogRow.columns "lawn_service_id").isSome = true := by decide
  have hCreated : isOneOf Statement.reservedWords "created_at" = false ∧
      (findColumn LogRow.columns "created_at").isSome = true := by decide
  intro condition hCondition
  rw [LogFilter.predicate_conditions] at hCondition
  simp only [List.mem_append, List.mem_map] at hCondition
  obtain ((⟨id, -, rfl⟩ | ⟨id, -, rfl⟩) | ⟨date, -, rfl⟩) | ⟨date, -, rfl⟩ := hCondition
  · exact hUser
  · exact hService
  · exact hCreated
  · exact hCreated

/-- The column that a filter of records compares exists, and its name is no keyword. -/
private theorem recordFilter_columns (filter : RecordFilter) :
    ∀ condition ∈ filter.predicate.conditions,
    isOneOf Statement.reservedWords condition.column = false ∧
      (findColumn RecordRow.columns condition.column).isSome = true := by
  have hLog : isOneOf Statement.reservedWords "calibration_log_id" = false ∧
      (findColumn RecordRow.columns "calibration_log_id").isSome = true := by decide
  intro condition hCondition
  rw [RecordFilter.predicate_conditions] at hCondition
  obtain ⟨id, -, rfl⟩ := List.mem_map.1 hCondition
  exact hLog

end Store

namespace Storage

namespace Request

def IsReading : Request → Prop
  | .loadUnit _ | .listUnits | .loadFormulation _ | .listFormulations => True
  | .loadLawnService _ | .listLawnServices | .loadLog _ | .listLogs _ => True
  | .loadRecord _ | .loadRecords _ | .listRecords _ => True
  | _ => False

/-- The rows that a question takes in, or the fault of its query. -/
def taken (request : Request) (db : Database) : Except Fault (List Row) :=
  match request with
  | .loadUnit symbol => .ok ((findRow UnitRow.symbol symbol db.units).toList.map .unit)
  | .listUnits => .ok (db.units.map .unit)
  | .loadFormulation id =>
      .ok ((findRow FormulationRow.id id.text db.formulations).toList.map .formulation)
  | .listFormulations => .ok (db.formulations.map .formulation)
  | .loadLawnService id =>
      .ok ((findRow LawnServiceRow.id id.text db.lawnServices).toList.map .lawnService)
  | .listLawnServices => .ok (db.lawnServices.map .lawnService)
  | .loadLog id => .ok ((db.logs.find? (Database.isLiveLog id.text)).toList.map .log)
  | .listLogs filter =>
      (queryRows LogRow.columns filter.predicate (db.logs.filter LogRow.isLive)).map
        (List.map .log)
  | .loadRecord id => .ok ((findRow RecordRow.id id.text db.records).toList.map .record)
  | .loadRecords log =>
      .ok ((db.records.filter fun row => row.calibrationLogId == log.text).map .record)
  | .listRecords filter =>
      (queryRows RecordRow.columns filter.predicate (db.records.filter fun row =>
        db.logs.any (Database.isLiveLog row.calibrationLogId))).map (List.map .record)
  | _ => .ok []

variable {times : List Instant} {db : Database}

/-- A question finds its rows in the database and reads them back. -/
private def Reads (db : Database) (request : Request) : Prop :=
  ∃ rows, request.taken db = .ok rows ∧ (∀ row ∈ rows, row ∈ db.rows) ∧
    ReadsBack (rows.flatMap Row.times) (request.perform db).1

section Rows

variable {ρ α : Type} {rows : List ρ} {wrap : ρ → Row} {outcome : Except StoreError α}
  {encode : α → Answer} {request : Request}

private theorem reads_rows (hTaken : request.taken db = .ok (rows.map wrap))
    (hPerform : (request.perform db).1 = outcome.map encode)
    (hRows : ∀ row ∈ rows, wrap row ∈ db.rows)
    (hReads : ReadsBack (rows.flatMap fun row => (wrap row).times) outcome) :
    Reads db request := by
  refine ⟨rows.map wrap, hTaken, List.forall_mem_map.2 hRows, ?_⟩
  rw [hPerform, List.flatMap_map]
  exact hReads.map encode

end Rows

/-- Every question takes in rows that are there, and it is answered unless one of them holds a far
text. -/
theorem reads_perform (hWritten : Database.Written times db) {request : Request}
    (hReading : request.IsReading) : Reads db request := by
  have hUnits := fun row hRow => readsBack_unit (hWritten.units row hRow)
  have hFormulations := fun row hRow => readsBack_formulation (hWritten.formulations row hRow)
  have hServices := fun row hRow => readsBack_lawnService (hWritten.lawnServices row hRow)
  have hLogs := fun row hRow => readsBack_log (hWritten.logs row hRow)
  have hRecords := fun row hRow => readsBack_record (hWritten.records row hRow)
  cases request with
  | loadUnit symbol =>
      refine reads_rows rfl rfl ?_ (.findRow hUnits)
      exact fun row hRow => Database.mem_rows_unit.2 (mem_of_findRow (Option.mem_toList.1 hRow)).1
  | listUnits =>
      exact reads_rows rfl rfl (fun row hRow => Database.mem_rows_unit.2 hRow) (.sortedBy hUnits)
  | loadFormulation id =>
      refine reads_rows rfl rfl ?_ (.findRow hFormulations)
      exact fun row hRow =>
        Database.mem_rows_formulation.2 (mem_of_findRow (Option.mem_toList.1 hRow)).1
  | listFormulations =>
      exact reads_rows rfl rfl (fun row hRow => Database.mem_rows_formulation.2 hRow)
        (.sortedBy hFormulations)
  | loadLawnService id =>
      refine reads_rows rfl rfl ?_ (.findRow hServices)
      exact fun row hRow =>
        Database.mem_rows_lawnService.2 (mem_of_findRow (Option.mem_toList.1 hRow)).1
  | listLawnServices =>
      exact reads_rows rfl rfl (fun row hRow => Database.mem_rows_lawnService.2 hRow)
        (.sortedBy hServices)
  | loadLog id =>
      have hFound : ∀ row ∈ db.logs.find? (Database.isLiveLog id.text), row ∈ db.logs :=
        fun row hRow => List.mem_of_find?_eq_some hRow
      refine reads_rows rfl rfl ?_ (.decodeRow fun row hRow => hLogs row (hFound row hRow))
      exact fun row hRow => Database.mem_rows_log.2 (hFound row (Option.mem_toList.1 hRow))
  | listLogs filter =>
      have hTaken : taken (.listLogs filter) db =
          .ok ((db.logs.filter (isChosen filter)).map .log) :=
        congrArg (Except.map (List.map Row.log)) (queryRows_eq_ok (logFilter_columns filter))
      refine reads_rows hTaken rfl ?_ ?_
      · exact fun row hRow => Database.mem_rows_log.2 (List.mem_of_mem_filter hRow)
      · exact .sortedNumbered fun row hRow => hLogs row (List.mem_of_mem_filter hRow)
  | loadRecord id =>
      refine reads_rows rfl rfl ?_ (.findRow hRecords)
      exact fun row hRow => Database.mem_rows_record.2 (mem_of_findRow (Option.mem_toList.1 hRow)).1
  | loadRecords log =>
      refine reads_rows rfl rfl ?_ ?_
      · exact fun row hRow => Database.mem_rows_record.2 (List.mem_of_mem_filter hRow)
      · exact .sortedNumbered fun row hRow => hRecords row (List.mem_of_mem_filter hRow)
  | listRecords filter =>
      have hTaken : taken (.listRecords filter) db =
          .ok ((Database.listedRecords filter db).map .record) :=
        congrArg (Except.map (List.map Row.record)) (queryRows_eq_ok (recordFilter_columns filter))
      refine reads_rows hTaken rfl ?_ ?_
      · exact fun row hRow => Database.mem_rows_record.2 (Database.mem_of_listedRecords hRow)
      · exact .sortedNumbered fun row hRow => hRecords row (Database.mem_of_listedRecords hRow)
  | _ => exact hReading.elim

end Request

/-- After any run of requests on a fresh database, a question takes in rows whose times were all
written by requests that succeeded.  It is answered just when none of their texts is far, and what
it answers else names one that is. -/
theorem answered_iff_near (requests : List Request) (question : Request)
    (hReading : question.IsReading) :
    ∃ rows, question.taken (performAll requests Database.empty) = .ok rows ∧
      (∀ row ∈ rows, row ∈ (performAll requests Database.empty).rows ∧
        ∀ text ∈ row.times, ∃ time ∈ storedRun requests, text = instantText time) ∧
      ((∃ answer, (question.perform (performAll requests Database.empty)).1 = .ok answer) ↔
        ∀ row ∈ rows, ∀ text ∈ row.times, ¬ IsFar text) ∧
      (∀ error, (question.perform (performAll requests Database.empty)).1 = .error error →
        ∃ row ∈ rows, ∃ text ∈ row.times, IsFar text ∧
          ∃ column reason, error = .corrupt column text (.timestamp reason)) ∧
      ((∀ time ∈ storedRun requests, time.date.HasFourDigits) →
        ∃ answer, (question.perform (performAll requests Database.empty)).1 = .ok answer) := by
  have hWritten := written_run requests
  obtain ⟨rows, hTaken, hRows, hReads⟩ := Request.reads_perform hWritten hReading
  have hTimes : ∀ row ∈ rows, ∀ text ∈ row.times,
      ∃ time ∈ storedRun requests, text = instantText time := fun row hRow =>
    (hWritten.row row (hRows row hRow)).mem_times
  refine ⟨rows, hTaken, fun row hRow => ⟨hRows row hRow, hTimes row hRow⟩, ?_, ?_, ?_⟩
  · rw [hReads.isOk_iff, List.forall_mem_flatMap]
  · intro error hError
    rw [hError] at hReads
    obtain ⟨text, hText, hFar, hNamed⟩ := hReads.of_error
    obtain ⟨row, hRow, hMember⟩ := List.mem_flatMap.1 hText
    exact ⟨row, hRow, text, hMember, hFar, hNamed⟩
  · intro hYears
    refine hReads.isOk_iff.2 (List.forall_mem_flatMap.2 fun row hRow text hText hFar => ?_)
    obtain ⟨time, hTime, rfl⟩ := hTimes row hRow text hText
    exact isFar_instantText_iff.1 hFar (hYears time hTime)

private theorem far_isDay : Calendar.IsDay 10000 1 1 := by
  decide

def farMorning : Instant :=
  Instant.startOfDay ⟨10000, 1, 1, far_isDay⟩

def farRun : List Request :=
  [.insertUnit ⟨"kg", "Kilogram", autumnMorning, autumnMorning⟩,
    .insertFormulation ⟨⟨1⟩, "Granular", farMorning, farMorning⟩]

private theorem taken_farRun : Request.listUnits.taken (performAll farRun Database.empty) =
    .ok [.unit (.ofUnit 1 ⟨"kg", "Kilogram", autumnMorning, autumnMorning⟩)] := by
  decide +kernel

private theorem listFormulations_farRun :
    (Request.listFormulations.perform (performAll farRun Database.empty)).1 =
      .error (.corrupt "formulations.created_at" "+10000-01-01T00:00:00.000000000Z"
        (.timestamp .invalid)) := by
  decide +kernel

/-- The list of units is answered after that run.  That of formulations fails, and names the text of
the instant that was written. -/
theorem answered_iff_near_farRun :
    (∃ answer, (Request.listUnits.perform (performAll farRun Database.empty)).1 = .ok answer) ∧
      IsFar "+10000-01-01T00:00:00.000000000Z" := by
  constructor
  · obtain ⟨rows, hTaken, -, hAnswered, -⟩ := answered_iff_near farRun .listUnits trivial
    obtain rfl := Except.ok.inj (hTaken.symm.trans taken_farRun)
    refine hAnswered.2 (List.forall_mem_singleton.2 fun text hText hFar => ?_)
    have hMorning : text = instantText autumnMorning := by
      simpa [Row.times, UnitRow.ofUnit] using hText
    rw [hMorning, isFar_instantText_iff] at hFar
    exact hFar (by decide)
  · obtain ⟨rows, -, -, -, hFailed, -⟩ := answered_iff_near farRun .listFormulations trivial
    obtain ⟨row, -, text, -, hFar, column, reason, hNamed⟩ := hFailed _ listFormulations_farRun
    obtain ⟨-, rfl, -⟩ := StoreError.corrupt.inj hNamed
    exact hFar

/-- Not everything that is written is read back. -/
theorem not_all_questions_answered :
    ¬ ∀ (requests : List Request) (question : Request), question.IsReading →
      ∃ answer, (question.perform (performAll requests Database.empty)).1 = .ok answer := by
  intro hAll
  obtain ⟨answer, hAnswer⟩ := hAll farRun .listFormulations trivial
  rw [listFormulations_farRun] at hAnswer
  cases hAnswer

end Storage
end LawnCalibration
