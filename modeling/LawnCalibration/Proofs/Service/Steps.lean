import LawnCalibration.Proofs.Service.Actions
import LawnCalibration.Proofs.Store.Decoding
import LawnCalibration.Service.Call

/-
What a call can do.

A step tells the answer to a call and the database after it from the database
before, with everything that the call made sure of on its way.  Only the change
of a log can write and fail all the same.
-/

set_option autoImplicit false

namespace LawnCalibration.Service

open Formula (Budget)
open Store (Database)
open Service.Action

/-- A log as it is handed out: the log itself, and of its records those that are stored under it. -/
def Completes (db : Database) (log completed : CalibrationLog) : Prop :=
  completed.id = log.id ∧ ∃ records, db.loadRecords log.id = .ok records ∧
    ∀ record ∈ completed.records, ∃ stored ∈ records, record.id = stored.id

inductive Step (around : Circumstance) (db : Database) :
    Call → Except ServiceError Answer → Database → Prop
  | refused (call : Call) (error : ServiceError) : Step around db call (.error error) db
  | unitCreated {draft : UnitDraft} {after : Database}
      (hValid : (draft.make around.now).validate = .ok ())
      (hWrite : db.insertUnit (draft.make around.now) = .ok after) :
      Step around db (.createUnit draft) (.ok (.unit (draft.make around.now))) after
  | unitsRead (units : List MeasureUnit) : Step around db .readUnits (.ok (.units units)) db
  | unitUpdated {symbol : String} {patch : UnitPatch} {unit : MeasureUnit} {after : Database}
      (hLoad : db.loadUnit symbol = .ok (some unit)) (hValid : (patch.apply unit).validate = .ok ())
      (hWrite : db.updateUnit { patch.apply unit with updatedAt := around.now } =
        .ok (true, after)) :
      Step around db (.updateUnit symbol patch)
        (.ok (.unit { patch.apply unit with updatedAt := around.now })) after
  | formulationCreated {draft : FormulationDraft} {after : Database}
      (hValid : draft.validate = .ok ())
      (hWrite : db.insertFormulation (draft.make ⟨around.freshBits⟩ around.now) = .ok after) :
      Step around db (.createFormulation draft)
        (.ok (.formulation (draft.make ⟨around.freshBits⟩ around.now))) after
  | formulationsRead (formulations : List Formulation) :
      Step around db .readFormulations (.ok (.formulations formulations)) db
  | formulationUpdated {id : FormulationId} {patch : FormulationPatch} {formulation : Formulation}
      {after : Database} (hLoad : db.loadFormulation id = .ok (some formulation))
      (hValid : (patch.apply formulation).validate = .ok ())
      (hWrite : db.updateFormulation { patch.apply formulation with updatedAt := around.now } =
        .ok (true, after)) :
      Step around db (.updateFormulation id patch)
        (.ok (.formulation { patch.apply formulation with updatedAt := around.now })) after
  | lawnServiceCreated {draft : LawnServiceDraft} {after : Database}
      (hValid : draft.validate = .ok ())
      (hWrite : db.insertLawnService (draft.make ⟨around.freshBits⟩ around.now) = .ok after) :
      Step around db (.createLawnService draft)
        (.ok (.lawnService (draft.make ⟨around.freshBits⟩ around.now))) after
  | lawnServicesRead (services : List LawnService) :
      Step around db .readLawnServices (.ok (.lawnServices services)) db
  | lawnServiceRead {id : LawnServiceId} (service : LawnService) :
      Step around db (.readLawnService id) (.ok (.lawnService service)) db
  | lawnServiceUpdated {id : LawnServiceId} {patch : LawnServicePatch} {service : LawnService}
      {after : Database} (hLoad : db.loadLawnService id = .ok (some service))
      (hValid : (patch.apply service).validate = .ok ())
      (hWrite : db.updateLawnService { patch.apply service with updatedAt := around.now } =
        .ok (true, after)) :
      Step around db (.updateLawnService id patch)
        (.ok (.lawnService { patch.apply service with updatedAt := around.now })) after
  | logCreated {draft : LogDraft} {user : UserId} {after : Database}
      (hWrite : db.insertLog (draft.make ⟨around.freshBits⟩ user around.now) = .ok after) :
      Step around db (.createLog draft user)
        (.ok (.log (draft.make ⟨around.freshBits⟩ user around.now))) after
  | logRead {id : CalibrationLogId} {log completed : CalibrationLog}
      (hLoad : db.loadLog id = .ok (some log)) (hCompletes : Completes db log completed) :
      Step around db (.readLog id) (.ok (.log completed)) db
  | logsRead {filter : LogFilter} {logs completed : List CalibrationLog}
      (hList : db.listLogs filter = .ok logs)
      (hCompletes : List.Forall₂ (Completes db) logs completed) :
      Step around db (.readLogs filter) (.ok (.logs completed)) db
  | logUpdated {id : CalibrationLogId} {patch : LogPatch} {log : CalibrationLog}
      {outcome : Except ServiceError CalibrationLog} {after : Database}
      (hLoad : db.loadLog id = .ok (some log))
      (hWrite : db.updateLog { patch.apply log with updatedAt := around.now } = .ok (true, after))
      (hCompletes : ∀ completed, outcome = .ok completed →
        Completes after { patch.apply log with updatedAt := around.now } completed) :
      Step around db (.updateLog id patch) (outcome.map .log) after
  | logDeleted {id : CalibrationLogId} {after : Database}
      (hWrite : db.deleteLog id around.now = .ok (true, after)) :
      Step around db (.deleteLog id) (.ok .done) after
  | recordCreated {id : CalibrationLogId} {draft : RecordDraft} {log : CalibrationLog}
      {after : Database} (hValid : draft.validate = .ok ()) (hLog : db.loadLog id = .ok (some log))
      (hWrite : db.insertRecord (draft.make ⟨around.freshBits⟩ id around.now) = .ok after) :
      Step around db (.createRecord id draft)
        (.ok (.record (draft.make ⟨around.freshBits⟩ id around.now))) after
  | recordsRead {filter : RecordFilter} {records : List CalibrationRecord}
      (hList : db.listRecords filter = .ok records) :
      Step around db (.readRecords filter) (.ok (.records records)) db
  | recordUpdated {id : CalibrationRecordId} {patch : RecordPatch} {record : CalibrationRecord}
      {after : Database} (hLoad : db.loadRecord id = .ok (some record))
      (hValid : (patch.apply record).validate = .ok ())
      (hWrite : db.updateRecord { patch.apply record with updatedAt := around.now } =
        .ok (true, after)) :
      Step around db (.updateRecord id patch)
        (.ok (.record { patch.apply record with updatedAt := around.now })) after
  | recordDeleted {id : CalibrationRecordId} {after : Database}
      (hWrite : db.deleteRecord id = .ok (true, after)) :
      Step around db (.deleteRecord id) (.ok .done) after

/-! ### Completing logs -/

/-- Why a log cannot be completed: its records cannot be read, or else its lawn service. -/
def CompletionFails (db : Database) (log : CalibrationLog) (error : StoreError) : Prop :=
  db.loadRecords log.id = .error error ∨
    (∃ records, db.loadRecords log.id = .ok records) ∧
      db.loadLawnService log.lawnServiceId = .error error

/-- A log with the records that are stored under it and, unless its lawn service is missing, with the
calibrations that this gives. -/
def Attaches (db : Database) (log completed : CalibrationLog) : Prop :=
  ∃ records, db.loadRecords log.id = .ok records ∧
    (completed = { log with records } ∨
      ∃ (budget : Budget) (service : LawnService),
        completed = service.calibrate budget { log with records })

private theorem mem_records_calibrate {budget : Budget} {service : LawnService}
    {log : CalibrationLog}
    {record : CalibrationRecord} (hMember : record ∈ (service.calibrate budget log).records) :
    ∃ stored ∈ log.records, record = { stored with calibration := record.calibration } := by
  rw [LawnService.calibrate, ← List.map_uncurry_zip_eq_zipWith] at hMember
  obtain ⟨⟨stored, value⟩, hPair, rfl⟩ := List.mem_map.1 hMember
  exact ⟨stored, (List.of_mem_zip hPair).1, rfl⟩

namespace Attaches

variable {db : Database} {log completed : CalibrationLog}

/-- What is kept of a log is left alone. -/
theorem kept (hAttaches : Attaches db log completed) : completed.kept = log.kept := by
  obtain ⟨records, -, rfl | ⟨budget, service, rfl⟩⟩ := hAttaches
  · rfl
  · rfl

/-- The records are the stored ones, each of them as it is stored besides its calibration. -/
theorem records (hAttaches : Attaches db log completed) :
    ∃ records, db.loadRecords log.id = .ok records ∧ ∀ record ∈ completed.records,
      ∃ stored ∈ records, record = { stored with calibration := record.calibration } := by
  obtain ⟨records, hLoad, rfl | ⟨budget, service, rfl⟩⟩ := hAttaches
  · exact ⟨records, hLoad, fun record hMember => ⟨record, hMember, rfl⟩⟩
  · exact ⟨records, hLoad, fun record hMember => mem_records_calibrate hMember⟩

theorem completes (hAttaches : Attaches db log completed) : Completes db log completed := by
  obtain ⟨records, hLoad, hRecords⟩ := hAttaches.records
  have hId : completed.kept.id = log.kept.id := congrArg CalibrationLog.id hAttaches.kept
  refine ⟨hId, records, hLoad, ?_⟩
  intro record hMember
  obtain ⟨stored, hStored, hSame⟩ := hRecords record hMember
  refine ⟨stored, hStored, ?_⟩
  rw [hSame]

end Attaches

section Completing

variable {db : Database} {α : Type} {post : Except ServiceError α → Database → Prop}

private theorem results_lookUp_bind {id : LawnServiceId} {known : Known}
    {next : Option LawnService × Known → Action Database α}
    (hFail : ∀ error, db.loadLawnService id = .error error → post (.error (.store error)) db)
    (hFound : ∀ found, Results (next found) db post) :
    Results (lookUp id known >>= next) db post := by
  unfold lookUp
  split
  · exact hFound _
  · rw [bind_assoc]
    exact results_query_bind_of hFail fun service _ => hFound _

theorem results_complete_bind_of {budget : Budget} {log : CalibrationLog} {known : Known}
    {next : CalibrationLog × Known → Action Database α}
    (hFail : ∀ error, CompletionFails db log error → post (.error (.store error)) db)
    (hDone : ∀ completed known, Attaches db log completed →
      Results (next (completed, known)) db post) :
    Results (complete budget log known >>= next) db post := by
  unfold complete
  rw [bind_assoc]
  apply results_query_bind_of
  · intro error hError
    exact hFail error (.inl hError)
  intro records hRecords
  rw [bind_assoc]
  apply results_lookUp_bind
  · intro error hError
    exact hFail error (.inr ⟨⟨records, hRecords⟩, hError⟩)
  rintro ⟨service, after⟩
  cases service with
  | some service =>
      exact hDone _ after ⟨records, hRecords, .inr ⟨budget, service, rfl⟩⟩
  | none => exact hDone _ after ⟨records, hRecords, .inl rfl⟩

private theorem results_complete_bind {budget : Budget} {log : CalibrationLog} {known : Known}
    {next : CalibrationLog × Known → Action Database α} (hStop : ∀ error, post (.error error) db)
    (hDone : ∀ completed known, Completes db log completed →
      Results (next (completed, known)) db post) :
    Results (complete budget log known >>= next) db post :=
  results_complete_bind_of (fun _ _ => hStop _)
    fun completed known hAttaches => hDone completed known hAttaches.completes

theorem results_completeAll_bind_of {budget : Budget} {logs : List CalibrationLog} {known : Known}
    {next : List CalibrationLog → Action Database α}
    (hFail : ∀ log ∈ logs, ∀ error, CompletionFails db log error → post (.error (.store error)) db)
    (hDone : ∀ completed, List.Forall₂ (Attaches db) logs completed →
      Results (next completed) db post) :
    Results (completeAll budget logs known >>= next) db post := by
  induction logs generalizing known next with
  | nil => exact hDone [] .nil
  | cons log logs ih =>
      obtain ⟨hFirst, hRest⟩ := List.forall_mem_cons.1 hFail
      unfold completeAll
      rw [bind_assoc]
      refine results_complete_bind_of hFirst fun completed after hAttaches => ?_
      rw [bind_assoc]
      exact ih hRest fun others hOthers => hDone (completed :: others) (.cons hAttaches hOthers)

private theorem results_completeAll_bind {budget : Budget} {logs : List CalibrationLog}
    {known : Known}
    {next : List CalibrationLog → Action Database α} (hStop : ∀ error, post (.error error) db)
    (hDone : ∀ completed, List.Forall₂ (Completes db) logs completed →
      Results (next completed) db post) :
    Results (completeAll budget logs known >>= next) db post :=
  results_completeAll_bind_of (fun _ _ _ _ => hStop _) fun completed hAttaches =>
    hDone completed (hAttaches.imp fun _ _ => Attaches.completes)

end Completing

/-- What the change of a log results in.  Once the log is written, it only has to be read again. -/
inductive LogUpdate (around : Circumstance) (db : Database) (id : CalibrationLogId)
    (patch : LogPatch) : Except ServiceError CalibrationLog → Database → Prop
  | refused (error : ServiceError) : LogUpdate around db id patch (.error error) db
  | unread {log : CalibrationLog} {cause : StoreError} {after : Database}
      (hLoad : db.loadLog id = .ok (some log))
      (hService : ∀ service ∈ patch.lawnServiceId,
        ∃ found, db.loadLawnService service = .ok (some found))
      (hWrite : db.updateLog { patch.apply log with updatedAt := around.now } = .ok (true, after))
      (hFails : CompletionFails after { patch.apply log with updatedAt := around.now } cause) :
      LogUpdate around db id patch (.error (.store cause)) after
  | done {log completed : CalibrationLog} {after : Database}
      (hLoad : db.loadLog id = .ok (some log))
      (hService : ∀ service ∈ patch.lawnServiceId,
        ∃ found, db.loadLawnService service = .ok (some found))
      (hWrite : db.updateLog { patch.apply log with updatedAt := around.now } = .ok (true, after))
      (hAttaches : Attaches after { patch.apply log with updatedAt := around.now } completed) :
      LogUpdate around db id patch (.ok completed) after

theorem logUpdate_updateLog {db : Database} {around : Circumstance} (budget : Budget)
    (id : CalibrationLogId) (patch : LogPatch) :
    Results (updateLog budget id patch around.now) db (LogUpdate around db id patch) := by
  have hStop : ∀ error, LogUpdate around db id patch (.error error) db := .refused
  refine results_load_bind hStop fun log hLoad => ?_
  have hRest : (∀ service ∈ patch.lawnServiceId,
      ∃ found, db.loadLawnService service = .ok (some found)) →
      Results (do
        alter .calibrationLog id.text
          (Storage.updateLog { patch.apply log with updatedAt := around.now })
        let found ← complete budget { patch.apply log with updatedAt := around.now } []
        return found.1) db (LogUpdate around db id patch) := by
    intro hService
    apply results_alter_bind hStop
    · intro after hWrite
      exact (Database.updateLog_eq_ok hWrite).lost
    intro after hWrite
    apply results_complete_bind_of
    · intro cause hFails
      exact .unread hLoad hService hWrite hFails
    · intro completed known hAttaches
      exact results_pure (.done hLoad hService hWrite hAttaches)
  cases hPatch : patch.lawnServiceId with
  | none =>
      apply hRest
      rw [hPatch]
      exact nofun
  | some service =>
      refine results_load_bind hStop fun found hFound => ?_
      apply hRest
      rw [hPatch]
      intro other hOther
      cases hOther
      exact ⟨found, hFound⟩

/-- The call that changes a log, with its answer. -/
theorem logUpdate_perform {db after : Database} {around : Circumstance} {budget : Budget}
    {id : CalibrationLogId} {patch : LogPatch} {outcome : Except ServiceError Answer}
    (hCall : (Call.updateLog id patch).perform budget around db = (outcome, after)) :
    ∃ result, outcome = result.map .log ∧ LogUpdate around db id patch result after := by
  have hUpdate : Results (updateLog budget id patch around.now) db (LogUpdate around db id patch) :=
    logUpdate_updateLog budget id patch
  change (Answer.log <$> updateLog budget id patch around.now).run.run db = _ at hCall
  rw [run_map] at hCall
  obtain ⟨hOutcome, hAfter⟩ := Prod.mk.inj hCall
  exact ⟨_, hOutcome.symm, hAfter ▸ hUpdate⟩

/-! ### Every call makes a step -/

section Calls

variable {db : Database} {around : Circumstance}

private theorem step_updateLawnService (id : LawnServiceId) (patch : LawnServicePatch) :
    Results (updateLawnService id patch around.now) db fun outcome after =>
      Step around db (.updateLawnService id patch) (outcome.map .lawnService) after := by
  have hStop : ∀ error : ServiceError,
      Step around db (.updateLawnService id patch) (.error error) db := .refused _
  refine results_load_bind hStop fun service hLoad => ?_
  have hRest : Results (do
      check (patch.apply service).validate
      alter .lawnService id.text
        (Storage.updateLawnService { patch.apply service with updatedAt := around.now })
      return { patch.apply service with updatedAt := around.now }) db fun outcome after =>
        Step around db (.updateLawnService id patch) (outcome.map .lawnService) after := by
    refine results_check_bind hStop fun hValid => ?_
    refine results_alter_bind hStop (fun _ hWrite => ?_) fun after hWrite => ?_
    · exact (Database.updateLawnService_eq_ok hWrite).lost
    · exact results_pure (.lawnServiceUpdated hLoad hValid hWrite)
  cases patch.formulationId with
  | none => exact hRest
  | some formulation => exact results_load_bind hStop fun _ _ => hRest

private theorem step_updateLog (budget : Budget) (id : CalibrationLogId) (patch : LogPatch) :
    Results (updateLog budget id patch around.now) db fun outcome after =>
      Step around db (.updateLog id patch) (outcome.map .log) after := by
  have hUpdate : Results (updateLog budget id patch around.now) db (LogUpdate around db id patch) :=
    logUpdate_updateLog budget id patch
  unfold Results at hUpdate ⊢
  generalize (updateLog budget id patch around.now).run.run db = result at hUpdate ⊢
  obtain ⟨outcome, after⟩ := result
  cases hUpdate with
  | refused error => exact .refused _ error
  | unread hLoad hService hWrite hFails =>
      refine .logUpdated hLoad hWrite ?_
      intro completed hOk
      cases hOk
  | done hLoad hService hWrite hAttaches =>
      refine .logUpdated hLoad hWrite fun completed hOk => ?_
      cases hOk
      exact hAttaches.completes

private theorem step_updateRecord (id : CalibrationRecordId) (patch : RecordPatch) :
    Results (updateRecord id patch around.now) db fun outcome after =>
      Step around db (.updateRecord id patch) (outcome.map .record) after := by
  have hStop : ∀ error : ServiceError,
      Step around db (.updateRecord id patch) (.error error) db := .refused _
  refine results_load_bind hStop fun record hLoad => ?_
  have hRest : Results (do
      check (patch.apply record).validate
      alter .calibrationRecord id.text
        (Storage.updateRecord { patch.apply record with updatedAt := around.now })
      return { patch.apply record with updatedAt := around.now }) db fun outcome after =>
        Step around db (.updateRecord id patch) (outcome.map .record) after := by
    refine results_check_bind hStop fun hValid => ?_
    refine results_alter_bind hStop (fun _ hWrite => ?_) fun after hWrite => ?_
    · exact (Database.updateRecord_eq_ok hWrite).lost
    · exact results_pure (.recordUpdated hLoad hValid hWrite)
  cases patch.calibrationLogId with
  | none => exact hRest
  | some log => exact results_load_bind hStop fun _ _ => hRest

theorem step_of_action (call : Call) (budget : Budget) :
    Results (call.action budget around) db (Step around db call) := by
  have hStop : ∀ error : ServiceError, Step around db call (.error error) db := .refused call
  cases call with
  | createUnit draft =>
      refine results_map (results_check_bind hStop fun hValid => ?_)
      refine results_add_bind hStop fun after hWrite => results_pure ?_
      exact .unitCreated hValid hWrite
  | readUnits => exact results_map (results_query hStop fun units _ => .unitsRead units)
  | updateUnit symbol patch =>
      refine results_map (results_load_bind hStop fun unit hLoad => ?_)
      refine results_check_bind hStop fun hValid => ?_
      refine results_alter_bind hStop (fun _ hWrite => ?_) fun after hWrite => results_pure ?_
      · exact (Database.updateUnit_eq_ok hWrite).lost
      · exact .unitUpdated hLoad hValid hWrite
  | createFormulation draft =>
      refine results_map (results_check_bind hStop fun hValid => ?_)
      refine results_add_bind hStop fun after hWrite => results_pure ?_
      exact .formulationCreated hValid hWrite
  | readFormulations =>
      exact results_map (results_query hStop fun formulations _ => .formulationsRead formulations)
  | updateFormulation id patch =>
      refine results_map (results_load_bind hStop fun formulation hLoad => ?_)
      refine results_check_bind hStop fun hValid => ?_
      refine results_alter_bind hStop (fun _ hWrite => ?_) fun after hWrite => results_pure ?_
      · exact (Database.updateFormulation_eq_ok hWrite).lost
      · exact .formulationUpdated hLoad hValid hWrite
  | createLawnService draft =>
      refine results_map (results_check_bind hStop fun hValid => ?_)
      refine results_load_bind hStop fun _ _ => ?_
      refine results_add_bind hStop fun after hWrite => results_pure ?_
      exact .lawnServiceCreated hValid hWrite
  | readLawnServices =>
      exact results_map (results_query hStop fun services _ => .lawnServicesRead services)
  | readLawnService id =>
      exact results_map (results_load hStop fun service _ => .lawnServiceRead service)
  | updateLawnService id patch => exact results_map (step_updateLawnService id patch)
  | createLog draft user =>
      refine results_map (results_load_bind hStop fun _ _ => ?_)
      exact results_add_bind hStop fun after hWrite => results_pure (.logCreated hWrite)
  | readLog id =>
      refine results_map (results_load_bind hStop fun log hLoad => ?_)
      refine results_complete_bind hStop fun completed _ hCompletes => results_pure ?_
      exact .logRead hLoad hCompletes
  | readLogs filter =>
      refine results_map (results_query_bind hStop fun logs hList => ?_)
      rw [← bind_pure (completeAll budget logs [])]
      refine results_completeAll_bind hStop fun completed hCompletes => results_pure ?_
      exact .logsRead hList hCompletes
  | updateLog id patch => exact results_map (step_updateLog budget id patch)
  | deleteLog id =>
      refine results_map (results_alter hStop (fun _ hWrite => ?_) fun after hWrite => ?_)
      · exact (Database.deleteLog_eq_ok hWrite).lost
      · exact .logDeleted hWrite
  | createRecord id draft =>
      refine results_map (results_check_bind hStop fun hValid => ?_)
      refine results_load_bind hStop fun log hLog => ?_
      refine results_add_bind hStop fun after hWrite => results_pure ?_
      exact .recordCreated hValid hLog hWrite
  | readRecords filter =>
      exact results_map (results_query hStop fun records hList => .recordsRead hList)
  | updateRecord id patch => exact results_map (step_updateRecord id patch)
  | deleteRecord id =>
      refine results_map (results_alter hStop (fun _ hWrite => ?_) fun after hWrite => ?_)
      · exact (Database.deleteRecord_eq_ok hWrite).lost
      · exact .recordDeleted hWrite

/-- Every call, whatever it finds, makes one of the steps. -/
theorem step_perform (call : Call) (budget : Budget) (around : Circumstance) (db : Database) :
    Step around db call (call.perform budget around db).1 (call.perform budget around db).2 :=
  step_of_action call budget

end Calls

end LawnCalibration.Service
