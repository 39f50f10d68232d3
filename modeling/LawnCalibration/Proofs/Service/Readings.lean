import LawnCalibration.Proofs.Service.Runs
import LawnCalibration.Proofs.Store.RecordListing
import LawnCalibration.Proofs.Store.Replacement

/-
What the reading calls show.

Every entity that they show stands in a row of the database.  The call that asks
for an entity finds its row, and shows the entity unless something on its way
cannot be read.
-/

set_option autoImplicit false

namespace LawnCalibration

namespace Service

open Formula (Budget)
open Store (Database EntityName Row)
open Store.Database (Intact Legible)
open Service.Action

namespace Answer

def ofLog (log : CalibrationLog) : List Item :=
  .log log :: log.records.map .record

def items : Answer → List Item
  | .done => []
  | .unit value => [.unit value]
  | .units values => values.map .unit
  | .formulation value => [.formulation value]
  | .formulations values => values.map .formulation
  | .lawnService value => [.lawnService value]
  | .lawnServices values => values.map .lawnService
  | .log value => ofLog value
  | .logs values => values.flatMap ofLog
  | .record value => [.record value]
  | .records values => values.map .record

end Answer

def Call.IsReading : Call → Prop
  | .readUnits | .readFormulations | .readLawnServices | .readLawnService _ => True
  | .readLog _ | .readLogs _ | .readRecords _ => True
  | _ => False

def Stands (db : Database) (item : Item) : Prop :=
  ∃ row ∈ db.rows, row.read = .ok item.bare

section Shown

variable {db : Database}

private theorem stands_unit {row : Store.UnitRow} (hRow : row ∈ db.units) {unit : MeasureUnit}
    (hRead : row.toUnit = .ok unit) : Stands db (.unit unit) :=
  ⟨.unit row, Database.mem_rows_unit.2 hRow, Store.map_eq_ok_iff.2 ⟨unit, hRead, rfl⟩⟩

private theorem stands_formulation {row : Store.FormulationRow} (hRow : row ∈ db.formulations)
    {formulation : Formulation} (hRead : row.toFormulation = .ok formulation) :
    Stands db (.formulation formulation) :=
  ⟨.formulation row, Database.mem_rows_formulation.2 hRow,
    Store.map_eq_ok_iff.2 ⟨formulation, hRead, rfl⟩⟩

private theorem stands_lawnService {row : Store.LawnServiceRow} (hRow : row ∈ db.lawnServices)
    {service : LawnService} (hRead : row.toLawnService = .ok service) :
    Stands db (.lawnService service) :=
  ⟨.lawnService row, Database.mem_rows_lawnService.2 hRow,
    Store.map_eq_ok_iff.2 ⟨service, hRead, rfl⟩⟩

/-- A record that is shown has the calibration of its log; the one that is stored has none. -/
private theorem stands_record {row : Store.RecordRow} (hRow : row ∈ db.records)
    {stored record : CalibrationRecord} (hRead : row.toRecord = .ok stored)
    (hSame : record = { stored with calibration := record.calibration }) :
    Stands db (.record record) := by
  obtain ⟨-, -, -, hCalibration⟩ := Store.RecordRow.toRecord_eq_ok hRead
  have hBare : { record with calibration := 0.0 } = stored := by
    rw [hSame, ← hCalibration]
  refine ⟨.record row, Database.mem_rows_record.2 hRow, Store.map_eq_ok_iff.2 ⟨stored, hRead, ?_⟩⟩
  exact congrArg Item.record hBare.symm

theorem kept_of_toLog {row : Store.LogRow} {log : CalibrationLog} (hRead : row.toLog = .ok log) :
    log.kept = log := by
  obtain ⟨-, -, -, -, -, -, hCalibration, hRecords⟩ := Store.LogRow.toLog_eq_ok hRead
  rw [CalibrationLog.kept, ← hCalibration, ← hRecords]

/-- A log that is shown stands in its row, and so do its records. -/
private theorem stands_ofLog {row : Store.LogRow} (hRow : row ∈ db.logs)
    {log completed : CalibrationLog}
    (hRead : row.toLog = .ok log) (hAttaches : Attaches db log completed) :
    ∀ item ∈ Answer.ofLog completed, Stands db item := by
  refine List.forall_mem_cons.2 ⟨?_, ?_⟩
  · have hBare : completed.kept = log := hAttaches.kept.trans (kept_of_toLog hRead)
    refine ⟨.log row, Database.mem_rows_log.2 hRow, Store.map_eq_ok_iff.2 ⟨log, hRead, ?_⟩⟩
    exact congrArg Item.log hBare.symm
  · obtain ⟨records, hLoad, hRecords⟩ := hAttaches.records
    intro item hItem
    obtain ⟨record, hRecord, rfl⟩ := List.mem_map.1 hItem
    obtain ⟨stored, hStored, hSame⟩ := hRecords record hRecord
    obtain ⟨other, hOther, -, hTold⟩ := Database.mem_loadRecords hLoad hStored
    exact stands_record hOther hTold hSame

/-- An outcome shows no entity but those of which `P` holds. -/
def ShowsOnly (P : Item → Prop) (outcome : Except ServiceError Answer) : Prop :=
  ∀ answer, outcome = .ok answer → ∀ item ∈ answer.items, P item

theorem showsOnly_error {P : Item → Prop} (error : ServiceError) : ShowsOnly P (.error error) :=
  fun _ hOk => by cases hOk

theorem showsOnly_ok {P : Item → Prop} {answer : Answer} (hItems : ∀ item ∈ answer.items, P item) :
    ShowsOnly P (.ok answer) := by
  intro other hOk
  cases hOk
  exact hItems

theorem results_list_showsOnly {P : Item → Prop} {α : Type}
    {question : Database → Except StoreError (List α)} {answer : List α → Answer} {wrap : α → Item}
    (hItems : ∀ values, (answer values).items = values.map wrap)
    (hEach : ∀ values, question db = .ok values → ∀ value ∈ values, P (wrap value)) :
    Results (answer <$> query question) db fun outcome _ => ShowsOnly P outcome := by
  refine results_map (results_query showsOnly_error fun values hList => showsOnly_ok ?_)
  rw [hItems]
  exact List.forall_mem_map.2 (hEach values hList)

def Truthful (db : Database) (outcome : Except ServiceError Answer) : Prop :=
  ∀ answer, outcome = .ok answer → ∀ item ∈ answer.items, Stands db item

theorem truthful_reading {call : Call} (hReading : call.IsReading) (budget : Budget)
    (around : Circumstance) :
    Results (call.action budget around) db fun outcome _ => Truthful db outcome := by
  change Results _ _ fun outcome _ => ShowsOnly (Stands db) outcome
  cases call with
  | readUnits =>
      refine results_list_showsOnly (fun _ => rfl) fun units hList unit hUnit => ?_
      obtain ⟨row, hRow, hRead⟩ := Database.mem_listUnits hList hUnit
      exact stands_unit hRow hRead
  | readFormulations =>
      refine results_list_showsOnly (fun _ => rfl) fun formulations hList formulation hMember => ?_
      obtain ⟨row, hRow, hRead⟩ := Database.mem_listFormulations hList hMember
      exact stands_formulation hRow hRead
  | readLawnServices =>
      refine results_list_showsOnly (fun _ => rfl) fun services hList service hService => ?_
      obtain ⟨row, hRow, hRead⟩ := Database.mem_listLawnServices hList hService
      exact stands_lawnService hRow hRead
  | readLawnService id =>
      refine results_map (results_load showsOnly_error fun service hLoad => showsOnly_ok ?_)
      obtain ⟨row, hRow, -, hRead⟩ := Database.loadLawnService_eq_ok_some hLoad
      exact List.forall_mem_singleton.2 (stands_lawnService hRow hRead)
  | readLog id =>
      refine results_map (results_load_bind showsOnly_error fun log hLoad => ?_)
      obtain ⟨row, hRow, -, hRead⟩ := Database.loadLog_eq_ok_some hLoad
      apply results_complete_bind_of
      · intro error _
        exact showsOnly_error _
      · intro completed known hAttaches
        exact results_pure (showsOnly_ok (stands_ofLog hRow hRead hAttaches))
  | readLogs filter =>
      refine results_map (results_query_bind showsOnly_error fun logs hList => ?_)
      rw [← bind_pure (completeAll budget logs [])]
      apply results_completeAll_bind_of
      · intro log _ error _
        exact showsOnly_error _
      · intro completed hAttaches
        refine results_pure (showsOnly_ok fun item hItem => ?_)
        obtain ⟨shown, hShown, hInside⟩ := List.mem_flatMap.1 hItem
        obtain ⟨log, hLog, hOne⟩ := Store.exists_of_forall₂ hAttaches hShown
        obtain ⟨row, hRow, -, hRead⟩ := Database.mem_listLogs hList hLog
        exact stands_ofLog hRow hRead hOne item hInside
  | readRecords filter =>
      refine results_list_showsOnly (fun _ => rfl) fun records hList record hRecord => ?_
      obtain ⟨row, hRow, hRead, -⟩ := Database.mem_listRecords hList hRecord
      exact stands_record hRow hRead rfl
  | _ => cases hReading

end Shown

/-! ### Asking for an entity -/

/-- A call asks for an entity by its kind, its key or the log that it belongs to. -/
def Call.Asks : Call → Item → Prop
  | .readUnits, .unit _ => True
  | .readFormulations, .formulation _ => True
  | .readLawnService id, .lawnService service => id = service.id
  | .readLog id, .log log => id = log.id
  | .readRecords filter, .record record =>
      ∀ id ∈ filter.calibrationLogId, id = record.calibrationLogId
  | _, _ => False

/-- An outcome shows an entity of the years of four digits; only a database that cannot be read
gives another one. -/
inductive Shows (db : Database) (item : Item) : Except ServiceError Answer → Prop
  | unread (error : ServiceError) (hIllegible : ¬ Legible db) : Shows db item (.error error)
  | shown {answer : Answer} {found : Item} (hFound : found ∈ answer.items)
      (hYear : item.updatedAt.date.HasFourDigits) (hSame : found.Same item) :
      Shows db item (.ok answer)

section Asked

variable {db : Database} {reading : Occasion}

private theorem not_legible_of_error {α : Type} {outcome : Except StoreError α} {error : StoreError}
    (hFails : outcome = .error error) (hAnswers : Legible db → ∃ answer, outcome = .ok answer) :
    ¬ Legible db := by
  intro hLegible
  obtain ⟨answer, hOk⟩ := hAnswers hLegible
  rw [hFails] at hOk
  cases hOk

/-- A list shows the entity of a row that it takes in. -/
private theorem results_list_shows {α : Type} {question : Database → Except StoreError (List α)}
    {answer : List α → Answer} {wrap : α → Item} {row : Row} {item : Item}
    (hTells : row.Tells item) (hBare : item.bare = item)
    (hItems : ∀ values, (answer values).items = values.map wrap)
    (hTotal : Legible db → ∃ values, question db = .ok values)
    (hListed : ∀ values, question db = .ok values →
      ∃ value ∈ values, row.read = .ok (wrap value)) :
    Results (answer <$> query question) db fun outcome _ => Shows db item outcome := by
  refine results_map (results_query_of ?_ ?_)
  · intro error hFails
    exact .unread _ (not_legible_of_error hFails hTotal)
  · intro values hList
    obtain ⟨value, hValue, hRead⟩ := hListed values hList
    obtain ⟨hYear, hSame⟩ := hTells.read _ hRead
    have hMember : wrap value ∈ (answer values).items := by
      rw [hItems]
      exact List.mem_map_of_mem hValue
    rw [hBare] at hSame
    exact .shown hMember hYear hSame

theorem shows_unit {unit : MeasureUnit} (hHas : Database.Has db (.unit unit))
    (hAsks : reading.call.Asks (.unit unit)) : Shows db (.unit unit) (reading.perform db).1 := by
  obtain ⟨stored, hStored, hTells⟩ := hHas
  obtain ⟨call, budget, around⟩ := reading
  cases stored with
  | unit row =>
      have hRow := Database.mem_rows_unit.1 hStored
      cases call with
      | readUnits =>
          refine results_list_shows hTells rfl (fun _ => rfl) Legible.listUnits ?_
          intro units hList
          obtain ⟨found, hFound, hRead⟩ :=
            Store.exists_of_mapM_eq_ok hList (Store.mem_sortedBy.2 hRow)
          exact ⟨found, hFound, Store.map_eq_ok_iff.2 ⟨found, hRead, rfl⟩⟩
      | _ => cases hAsks
  | _ => cases hTells.key

theorem shows_formulation {formulation : Formulation}
    (hHas : Database.Has db (.formulation formulation))
    (hAsks : reading.call.Asks (.formulation formulation)) :
    Shows db (.formulation formulation) (reading.perform db).1 := by
  obtain ⟨stored, hStored, hTells⟩ := hHas
  obtain ⟨call, budget, around⟩ := reading
  cases stored with
  | formulation row =>
      have hRow := Database.mem_rows_formulation.1 hStored
      cases call with
      | readFormulations =>
          refine results_list_shows hTells rfl (fun _ => rfl) Legible.listFormulations ?_
          intro formulations hList
          obtain ⟨found, hFound, hRead⟩ :=
            Store.exists_of_mapM_eq_ok hList (Store.mem_sortedBy.2 hRow)
          exact ⟨found, hFound, Store.map_eq_ok_iff.2 ⟨found, hRead, rfl⟩⟩
      | _ => cases hAsks
  | _ => cases hTells.key

theorem shows_lawnService (hIntact : Intact db) {service : LawnService}
    (hHas : Database.Has db (.lawnService service))
    (hAsks : reading.call.Asks (.lawnService service)) :
    Shows db (.lawnService service) (reading.perform db).1 := by
  obtain ⟨stored, hStored, hTells⟩ := hHas
  obtain ⟨call, budget, around⟩ := reading
  cases stored with
  | lawnService row =>
      have hRow := Database.mem_rows_lawnService.1 hStored
      have hId : row.id = service.id.text := (Prod.mk.inj hTells.key).2
      cases call with
      | readLawnService id =>
          obtain rfl : id = service.id := hAsks
          change Results (Call.action (.readLawnService service.id) budget around) db
            fun outcome _ => Shows db (.lawnService service) outcome
          refine results_map (results_load_of ?_ ?_ ?_)
          · intro error hFails
            refine .unread _ (not_legible_of_error hFails fun hLegible => ?_)
            exact Database.exists_loadLawnService hLegible.lawnServices service.id
          · intro hNone
            have hText : service.id.text ∈ db.lawnServices.map Store.LawnServiceRow.id :=
              hId ▸ List.mem_map_of_mem hRow
            cases Database.loadLawnService_isSome hText hNone
          · intro found hLoad
            obtain ⟨other, hOther, hText, hRead⟩ := Database.loadLawnService_eq_ok_some hLoad
            obtain rfl : other = row :=
              List.inj_on_of_nodup_map hIntact.lawnServiceIds hOther hRow (hText.trans hId.symm)
            obtain ⟨hYear, hSame⟩ := hTells.read _ (Store.map_eq_ok_iff.2 ⟨found, hRead, rfl⟩)
            exact .shown (List.mem_singleton_self _) hYear hSame
      | _ => cases hAsks
  | _ => cases hTells.key

/-- Without records there is nothing to compute. -/
private theorem calibrate_of_nil {budget : Budget} {service : LawnService} {log : CalibrationLog}
    (hRecords : log.records = []) (hCalibration : log.currentCalibration = none) :
    service.calibrate budget log = log := by
  have hCurrent : ∀ formula, Calibration.currentCalibration budget formula [] = none := by
    intro formula
    unfold Calibration.currentCalibration
    split
    · rfl
    · rfl
  obtain ⟨id, userId, lawnServiceId, createdAt, updatedAt, deletedAt, calibration, records⟩ := log
  cases hRecords
  cases hCalibration
  simp only [LawnService.calibrate, Calibration.summarize, List.map_nil, hCurrent,
    List.zipWith_nil_left]

/-- A log without records is handed out as it is. -/
theorem Attaches.eq_of_empty {log completed : CalibrationLog} (hAttaches : Attaches db log completed)
    (hKept : log.kept = log)
    (hEmpty : ∀ record ∈ db.records, record.calibrationLogId ≠ log.id.text) : completed = log := by
  have hNone : log.currentCalibration = none := congrArg CalibrationLog.currentCalibration hKept.symm
  have hNil : log.records = [] := congrArg CalibrationLog.records hKept.symm
  obtain ⟨records, hRecords, hCompleted⟩ := hAttaches
  obtain rfl : records = [] := by
    refine List.eq_nil_iff_forall_not_mem.2 fun record hRecord => ?_
    obtain ⟨row, hRow, hLog, -⟩ := Database.mem_loadRecords hRecords hRecord
    exact hEmpty row hRow hLog
  have hSelf : { log with records := [] } = log := by rw [← hNil]
  rw [hSelf] at hCompleted
  rcases hCompleted with hPlain | ⟨budget, service, hCalibrated⟩
  · exact hPlain
  · rw [hCalibrated, calibrate_of_nil hNil hNone]

theorem shows_log (hIntact : Intact db) {row : Store.LogRow} {log : CalibrationLog}
    (hRow : row ∈ db.logs) (hLive : Database.isLiveLog log.id.text row = true)
    (hTells : (Row.log row).Tells (.log log)) (hKept : log.kept = log)
    (hEmpty : ∀ record ∈ db.records, record.calibrationLogId ≠ log.id.text)
    (hAsks : reading.call.Asks (.log log)) : Shows db (.log log) (reading.perform db).1 := by
  obtain ⟨call, budget, around⟩ := reading
  cases call with
  | readLog id =>
      obtain rfl : id = log.id := hAsks
      change Results (Call.action (.readLog log.id) budget around) db fun outcome _ =>
        Shows db (.log log) outcome
      refine results_map (results_load_bind_of ?_ ?_ ?_)
      · intro error hFails
        exact .unread _ (not_legible_of_error hFails fun hLegible => hLegible.loadLog log.id)
      · intro hNone
        have hNoRow := List.find?_eq_none.1 (Store.decodeRow_eq_ok_none_iff.1 hNone)
        exact absurd hLive (hNoRow row hRow)
      · intro found hLoad
        obtain ⟨other, hOther, hFoundLive, hRead⟩ := Database.loadLog_eq_ok_some hLoad
        obtain rfl := (hIntact.isLiveLog_iff_eq hRow hLive other hOther).1 hFoundLive
        obtain ⟨hYear, hSame⟩ := hTells.read (.log found)
          (Store.map_eq_ok_iff.2 ⟨found, hRead, rfl⟩)
        obtain rfl : found = log := by
          have hFields : found.kept = log.kept := hSame.2.2
          rw [← kept_of_toLog hRead, hFields, hKept]
        apply results_complete_bind_of
        · intro error hFails
          refine .unread _ fun hLegible => ?_
          exact not_completionFails hLegible.records hLegible.lawnServices _ _ hFails
        · intro completed known hAttaches
          refine results_pure (.shown List.mem_cons_self hYear ?_)
          rw [hAttaches.eq_of_empty hKept hEmpty, ← hKept]
          exact found.same_kept
  | _ => cases hAsks

/-- A record is listed under its log, as long as that is not deleted. -/
theorem shows_record {row : Store.RecordRow} {record : CalibrationRecord} (hRow : row ∈ db.records)
    (hTells : (Row.record row).Tells (.record record))
    (hBare : { record with calibration := 0.0 } = record)
    (hLog : row.calibrationLogId = record.calibrationLogId.text)
    (hLive : ∃ log ∈ db.logs, Database.isLiveLog row.calibrationLogId log = true)
    (hAsks : reading.call.Asks (.record record)) :
    Shows db (.record record) (reading.perform db).1 := by
  obtain ⟨call, budget, around⟩ := reading
  cases call with
  | readRecords filter =>
      have hSelected : Store.selects filter.predicate
          (Store.columnsOf Store.RecordRow.columns row) = true := by
        rw [Store.selects_recordFilter_iff]
        intro id hId
        rw [hLog, hAsks id hId]
      have hChosen : row ∈ db.records.filter fun row =>
          db.logs.any (Database.isLiveLog row.calibrationLogId) &&
            Store.selects filter.predicate (Store.columnsOf Store.RecordRow.columns row) :=
        List.mem_filter.2 ⟨hRow, Bool.and_eq_true_iff.2 ⟨List.any_eq_true.2 hLive, hSelected⟩⟩
      refine results_list_shows hTells (congrArg Item.record hBare) (fun _ => rfl)
        (fun hLegible => hLegible.listRecords filter) ?_
      intro records hList
      obtain ⟨found, hFound, hRead⟩ :=
        Store.exists_of_mapM_eq_ok hList (Store.mem_sortedNumbered.2 hChosen)
      exact ⟨found, hFound, Store.map_eq_ok_iff.2 ⟨found, hRead, rfl⟩⟩
  | _ => cases hAsks

end Asked
end Service
end LawnCalibration
