import LawnCalibration.Proofs.Calendar.Timestamp
import LawnCalibration.Proofs.Store.Comparison
import LawnCalibration.Proofs.Store.LogBook

/-
The logs that a filter lists.

A filter means days of the calendar, and the table compares texts.  The two
agree as long as the text of every instant that takes part has a year of four
digits and no leap second ends the last day that is asked for.
-/

set_option autoImplicit false

namespace LawnCalibration

open Calendar (Date Instant Timestamp.text)
open Predicate (Field Condition RangeRole instantParameter)
open Store

namespace LogFilter

/-- A live log of the user and the lawn service that are asked for. -/
def Matches (filter : LogFilter) (log : CalibrationLog) : Prop :=
  log.deletedAt = none ∧ (∀ id ∈ filter.userId, log.userId = id) ∧
    ∀ id ∈ filter.lawnServiceId, log.lawnServiceId = id

/-- A log that is asked for by the calendar. -/
def Asks (filter : LogFilter) (log : CalibrationLog) : Prop :=
  filter.Matches log ∧ (∀ date ∈ filter.dateFrom, date ≤ log.createdAt.date) ∧
    ∀ date ∈ filter.dateTo, log.createdAt.date ≤ date

/-- A log that is listed when its text is compared. -/
def Lists (filter : LogFilter) (log : CalibrationLog) : Prop :=
  filter.Matches log ∧ log.createdAt.date.HasFourDigits ∧
    (∀ date ∈ filter.dateFrom, 9999 < date.year ∨ date ≤ log.createdAt.date) ∧
    ∀ date ∈ filter.dateTo, date.year ≤ 9999 ∧ log.createdAt ≤ Instant.endOfDay date

/-- A log that is asked for and not listed: its own year or that of the last day is not written
with four digits, or it was created in the leap second after the last day. -/
def Overlooks (filter : LogFilter) (log : CalibrationLog) : Prop :=
  filter.Asks log ∧ (¬ log.createdAt.date.HasFourDigits ∨
    ∃ date ∈ filter.dateTo, 9999 < date.year ∨ Instant.endOfDay date < log.createdAt)

/-- A log that is listed and not asked for: the first day lies after the year 9999. -/
def Intrudes (filter : LogFilter) (log : CalibrationLog) : Prop :=
  filter.Lists log ∧ ∃ date ∈ filter.dateFrom, 9999 < date.year

instance (filter : LogFilter) (log : CalibrationLog) : Decidable (filter.Matches log) :=
  inferInstanceAs (Decidable (_ ∧ _))

instance (filter : LogFilter) (log : CalibrationLog) : Decidable (filter.Asks log) :=
  inferInstanceAs (Decidable (_ ∧ _))

instance (filter : LogFilter) (log : CalibrationLog) : Decidable (filter.Lists log) :=
  inferInstanceAs (Decidable (_ ∧ _))

variable {filter : LogFilter} {log : CalibrationLog}

theorem Asks.lists (hAsks : filter.Asks log) (hSeen : ¬ filter.Overlooks log) : filter.Lists log := by
  have hYear : log.createdAt.date.HasFourDigits := by
    by_contra hYear
    exact hSeen ⟨hAsks, .inl hYear⟩
  refine ⟨hAsks.1, hYear, fun date hDate => .inr (hAsks.2.1 date hDate), fun date hDate => ?_⟩
  have hBound : ¬ (9999 < date.year ∨ Instant.endOfDay date < log.createdAt) := fun hLost =>
    hSeen ⟨hAsks, .inr ⟨date, hDate, hLost⟩⟩
  exact ⟨Int.not_lt.1 fun hLate => hBound (.inl hLate),
    Instant.not_lt.1 fun hLate => hBound (.inr hLate)⟩

theorem Lists.asks (hLists : filter.Lists log) (hRight : ¬ filter.Intrudes log) : filter.Asks log := by
  obtain ⟨-, hFrom, hTo⟩ := hLists.2
  refine ⟨hLists.1, fun date hDate => ?_, fun date hDate => ?_⟩
  · exact (hFrom date hDate).resolve_left fun hLate => hRight ⟨hLists, date, hDate, hLate⟩
  · exact Instant.date_le_of_le_endOfDay (hTo date hDate).2

theorem Overlooks.not_lists (hOverlooks : filter.Overlooks log) : ¬ filter.Lists log := by
  rintro ⟨-, hYear, -, hTo⟩
  obtain ⟨-, hOther | ⟨date, hDate, hLate | hLate⟩⟩ := hOverlooks
  · exact hOther hYear
  · exact Int.not_lt.2 (hTo date hDate).1 hLate
  · exact Instant.not_lt.2 (hTo date hDate).2 hLate

theorem Intrudes.not_asks (hIntrudes : filter.Intrudes log) : ¬ filter.Asks log := by
  rintro ⟨-, hFrom, -⟩
  obtain ⟨⟨-, hYear, -⟩, date, hDate, hLate⟩ := hIntrudes
  have hLast := hYear.2
  rcases hFrom date hDate with (hBefore | ⟨hSame, -⟩) | rfl
  · omega
  · omega
  · omega

/-- By the calendar and by text a log is judged alike unless it is overlooked or intrudes. -/
theorem lists_iff_asks_iff :
    (filter.Lists log ↔ filter.Asks log) ↔ ¬ filter.Overlooks log ∧ ¬ filter.Intrudes log := by
  constructor
  · intro hAlike
    exact ⟨fun hOverlooks => hOverlooks.not_lists (hAlike.2 hOverlooks.1),
      fun hIntrudes => hIntrudes.not_asks (hAlike.1 hIntrudes.1)⟩
  · rintro ⟨hSeen, hRight⟩
    exact ⟨fun hLists => hLists.asks hRight, fun hAsks => hAsks.lists hSeen⟩

end LogFilter

/-! ### What a predicate compares -/

namespace Predicate

/-- A condition on a column that holds the text of an identifier. -/
theorem conditions_identifier {kind : Kind} (name : String) (hColumn : Text.snakeCased name = name)
    (hName : isIdentifier name.toList = true) (id? : Option (Identifier kind)) :
    (Field.plain name (id?.map fun id => .identifier id.bits)).conditions =
      id?.toList.map fun id => { column := name, comparison := .equal, parameter := .text id.text } := by
  cases id? with
  | none => rfl
  | some id =>
      simp only [Field.conditions, Field.presentValue, Field.plain, Field.columnName, hColumn, hName,
        Option.map_some, if_true]
      rfl

/-- A condition on the time of creation that bounds it by a day. -/
private theorem conditions_day {name : String} (date? : Option Date) :
    (Field.mapped name "created_at" (date?.map .day)).conditions =
      date?.toList.flatMap fun date => (comparisons (rangeRole name) (.day date)).map
        fun (comparison, parameter) => { column := "created_at", comparison, parameter } := by
  cases date? with
  | none => rfl
  | some date =>
      have hName : isIdentifier "created_at".toList = true := by decide
      simp only [Field.conditions, Field.presentValue, Field.mapped, Field.columnName, hName,
        Option.map_some, if_true, Option.toList_some, List.flatMap_singleton]

end Predicate

theorem LogFilter.predicate_conditions (filter : LogFilter) :
    filter.predicate.conditions =
      (filter.userId.toList.map fun id => ⟨"user_id", .equal, .text id.text⟩) ++
      (filter.lawnServiceId.toList.map fun id => ⟨"lawn_service_id", .equal, .text id.text⟩) ++
      (filter.dateFrom.toList.map fun date =>
        ⟨"created_at", .atLeast, instantParameter (Instant.startOfDay date)⟩) ++
      (filter.dateTo.toList.map fun date =>
        ⟨"created_at", .atMost, instantParameter (Instant.endOfDay date)⟩) := by
  have hFrom : Predicate.rangeRole "date_from" = .lower := by decide
  have hTo : Predicate.rangeRole "date_to" = .upper := by decide
  simp only [predicate, Predicate.ofFields, fields, List.flatMap_cons, List.flatMap_nil,
    Predicate.conditions_identifier "user_id" (by decide +kernel) (by decide),
    Predicate.conditions_identifier "lawn_service_id" (by decide +kernel) (by decide),
    Predicate.conditions_day, hFrom, hTo]
  cases filter.dateFrom <;> cases filter.dateTo <;> simp [Predicate.comparisons]

namespace Store

theorem selects_logFilter_iff {filter : LogFilter} {row : LogRow} :
    selects filter.predicate (columnsOf LogRow.columns row) = true ↔
      (∀ id ∈ filter.userId, row.userId = id.text) ∧
      (∀ id ∈ filter.lawnServiceId, row.lawnServiceId = id.text) ∧
      (∀ date ∈ filter.dateFrom, instantText (Instant.startOfDay date) ≤ row.createdAt) ∧
      ∀ date ∈ filter.dateTo, row.createdAt ≤ instantText (Instant.endOfDay date) := by
  have hUser : columnsOf LogRow.columns row "user_id" = some (.text, .text row.userId) := rfl
  have hService : columnsOf LogRow.columns row "lawn_service_id" =
      some (.text, .text row.lawnServiceId) := rfl
  have hCreated : columnsOf LogRow.columns row "created_at" = some (.text, .text row.createdAt) := rfl
  unfold selects
  rw [LogFilter.predicate_conditions]
  simp only [List.all_append, Bool.and_eq_true, List.all_map, List.all_eq_true, Function.comp_apply,
    instantParameter, condition?_text hUser, condition?_text hService, condition?_text hCreated,
    Option.getD_some, meets_equal_iff, meets_atLeast_iff, meets_atMost_iff, Option.mem_toList,
    and_assoc]
  rfl

def isChosen (filter : LogFilter) (row : LogRow) : Bool :=
  row.isLive && selects filter.predicate (columnsOf LogRow.columns row)

private theorem isChosen_ofLog (filter : LogFilter) (number : Int) (log : CalibrationLog) :
    isChosen filter (.ofLog number log) = isChosen filter (entryRow (0, log)) := by
  rw [Bool.eq_iff_iff, isChosen, isChosen, Bool.and_eq_true, Bool.and_eq_true,
    selects_logFilter_iff, selects_logFilter_iff]
  rfl

/-- Within the four digits a row is chosen just when its log is listed. -/
theorem isChosen_iff_lists {filter : LogFilter} {entry : Int × CalibrationLog}
    (hYear : entry.2.createdAt.date.HasFourDigits) :
    isChosen filter (entryRow entry) = true ↔ filter.Lists entry.2 := by
  have hLive : (entryRow entry).isLive = true ↔ entry.2.deletedAt = none := by
    simp [LogRow.isLive, entryRow, LogRow.ofLog]
  rw [isChosen, Bool.and_eq_true, hLive, selects_logFilter_iff]
  simp only [entryRow, LogRow.ofLog, instantText, Identifier.text_inj,
    Calendar.Timestamp.text_startOfDay_le_iff hYear, Calendar.Timestamp.text_le_endOfDay_iff hYear]
  unfold LogFilter.Lists LogFilter.Matches
  tauto

end Store

/-- Logs in the order of their creation; logs of one instant keep their order. -/
def oldestFirst (logs : List CalibrationLog) : List CalibrationLog :=
  logs.mergeSort fun first second => decide (first.createdAt ≤ second.createdAt)

private theorem mem_oldestFirst {logs : List CalibrationLog} {log : CalibrationLog} :
    log ∈ oldestFirst logs ↔ log ∈ logs :=
  List.mem_mergeSort

namespace Store

/-- A list that is answered holds the listed logs and no others. -/
theorem listLogs_eq_oldestFirst {db : Database} {book logs : List CalibrationLog} {filter : LogFilter}
    (hHolds : HoldsLogs db.logs book) (hList : db.listLogs filter = .ok logs) :
    logs = oldestFirst (book.filter fun log => filter.Lists log) := by
  have hChosen : logTable.Holds (db.logs.filter (isChosen filter))
      (book.filter fun log => isChosen filter (entryRow (0, log))) :=
    (holdsLogs_iff.1 hHolds).filter (isChosen_ofLog filter)
  obtain ⟨hYears, hLogs⟩ := hChosen.read_sorted hList
  have hSame : (book.filter fun log => isChosen filter (entryRow (0, log))) =
      book.filter fun log => filter.Lists log := by
    refine List.filter_congr fun log hLog => ?_
    rw [Bool.eq_iff_iff, decide_eq_true_iff]
    constructor
    · intro hRow
      exact (isChosen_iff_lists (hYears log (List.mem_filter.2 ⟨hLog, hRow⟩))).1 hRow
    · intro hLists
      exact (isChosen_iff_lists hLists.2.1).2 hLists
  rw [hLogs, hSame]
  rfl

end Store

/-! ### Lists after a run of requests -/

open Storage (Request performAll recordedRun)

/-- After any run of requests, a list that is answered holds the logs on record that are listed by
their texts, the oldest first.  They are the logs that are asked for by the calendar just when
no log on record is overlooked and none intrudes. -/
theorem listLogs_follows_calendar_iff (requests : List Request) (filter : LogFilter)
    (logs : List CalibrationLog)
    (hList : Storage.listLogs filter (performAll requests Database.empty) = .ok logs) :
    logs = oldestFirst ((recordedRun requests).filter fun log => filter.Lists log) ∧
      (logs = oldestFirst ((recordedRun requests).filter fun log => filter.Asks log) ↔
        ∀ log ∈ recordedRun requests, ¬ filter.Overlooks log ∧ ¬ filter.Intrudes log) := by
  have hLogs := listLogs_eq_oldestFirst (Storage.holdsLogs_run requests) hList
  refine ⟨hLogs, fun hSame log hLog => ?_, fun hAlike => ?_⟩
  · refine LogFilter.lists_iff_asks_iff.1 ?_
    have hMember := congrArg (log ∈ ·) (hLogs.symm.trans hSame)
    simpa [mem_oldestFirst, hLog] using hMember
  · rw [hLogs]
    refine congrArg oldestFirst (List.filter_congr fun log hLog => ?_)
    rw [decide_eq_decide]
    exact LogFilter.lists_iff_asks_iff.2 (hAlike log hLog)

def springMorning : Instant :=
  Instant.startOfDay ⟨2025, 9, 2, by decide⟩

def springLog : CalibrationLog :=
  ⟨⟨3⟩, ⟨9⟩, ⟨2⟩, springMorning, springMorning, none, none, []⟩

def springRun : List Request :=
  [.insertFormulation ⟨⟨1⟩, "Granular", springMorning, springMorning⟩,
    .insertLawnService ⟨⟨"FERT", "Fertilizer", ⟨1⟩, 3.5, "kg", "g", "amount", ""⟩, ⟨2⟩,
      springMorning, springMorning⟩,
    .insertLog springLog]

def farFilter : LogFilter :=
  ⟨none, none, some ⟨10000, 1, 1, by decide⟩, none⟩

private theorem listLogs_springRun :
    Storage.listLogs farFilter (performAll springRun Database.empty) = .ok [springLog] := by
  decide +kernel

/-- The log of the year 2025 is listed and not asked for. -/
theorem listLogs_follows_calendar_far :
    [springLog] = oldestFirst ((recordedRun springRun).filter fun log => farFilter.Lists log) ∧
      ([springLog] = oldestFirst ((recordedRun springRun).filter fun log => farFilter.Asks log) ↔
        ∀ log ∈ recordedRun springRun, ¬ farFilter.Overlooks log ∧ ¬ farFilter.Intrudes log) :=
  listLogs_follows_calendar_iff springRun farFilter [springLog] listLogs_springRun

/-- A list that is answered does not always follow the calendar. -/
theorem not_listLogs_follows_calendar :
    ¬ ∀ (requests : List Request) (filter : LogFilter) (logs : List CalibrationLog),
      Storage.listLogs filter (performAll requests Database.empty) = .ok logs →
        logs = oldestFirst ((recordedRun requests).filter fun log => filter.Asks log) := by
  intro hAll
  have hAsked := hAll springRun farFilter [springLog] listLogs_springRun
  have hMember : springLog ∈ (recordedRun springRun).filter fun log => farFilter.Asks log :=
    mem_oldestFirst.1 (hAsked ▸ List.mem_singleton_self springLog)
  have hFar : ¬ farFilter.Asks springLog := by decide
  exact hFar (of_decide_eq_true (List.mem_filter.1 hMember).2)

end LawnCalibration
