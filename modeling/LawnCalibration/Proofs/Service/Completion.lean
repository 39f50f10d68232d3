import LawnCalibration.Proofs.Service.Runs
import LawnCalibration.Proofs.Store.Rows

/-
Logs are completed with their lawn service.

A log whose lawn service is not stored would be handed out as it is.  To say
that this never happens, the calls are run with any other treatment of such a
log in its place: after every run they answer and leave the same.
-/

set_option autoImplicit false

namespace LawnCalibration.Service

open Formula (Budget)
open Store (Database)
open Store.Database (Intact)
open Service.Action

section Treatments

variable {σ : Type} [Storage σ]

/-- Completes a log, handing it to `missing` if its lawn service is not stored. -/
def completeOr (missing : CalibrationLog → Action σ CalibrationLog) (budget : Budget)
    (log : CalibrationLog) (known : Known) : Action σ (CalibrationLog × Known) := do
  let records ← query (Storage.loadRecords log.id)
  let log := { log with records }
  let (service, known) ← lookUp log.lawnServiceId known
  match service with
  | some service => return (service.calibrate budget log, known)
  | none => return (← missing log, known)

def completeAllOr (missing : CalibrationLog → Action σ CalibrationLog) (budget : Budget) :
    List CalibrationLog → Known → Action σ (List CalibrationLog)
  | [], _ => return []
  | log :: logs, known => do
      let (log, known) ← completeOr missing budget log known
      let logs ← completeAllOr missing budget logs known
      return log :: logs

def updateLogOr (missing : CalibrationLog → Action σ CalibrationLog) (budget : Budget)
    (id : CalibrationLogId) (patch : LogPatch) (now : Calendar.Instant) :
    Action σ CalibrationLog := do
  let log ← findLog id
  if let some service := patch.lawnServiceId then
    let _ ← readLawnService service
  let log := { patch.apply log with updatedAt := now }
  alter .calibrationLog id.text (Storage.updateLog log)
  let (log, _) ← completeOr missing budget log []
  return log

/-- The calls that complete logs, with another treatment; all others are as they are. -/
def Call.actionOr (missing : CalibrationLog → Action σ CalibrationLog) (call : Call)
    (budget : Budget) (around : Circumstance) : Action σ Answer :=
  match call with
  | .readLog id => .log <$> do
      let log ← findLog id
      let (log, _) ← completeOr missing budget log []
      return log
  | .readLogs filter => .logs <$> do
      let logs ← query (Storage.listLogs filter)
      completeAllOr missing budget logs []
  | .updateLog id patch => .log <$> updateLogOr missing budget id patch around.now
  | other => other.action budget around

def Occasion.performOr (occasion : Occasion) (missing : CalibrationLog → Action σ CalibrationLog)
    (store : σ) : Except ServiceError Answer × σ :=
  (occasion.call.actionOr missing occasion.budget occasion.around).run.run store

end Treatments

def AllFound (known : Known) : Prop :=
  ∀ entry ∈ known, entry.2.isSome = true

def Served (db : Database) (log : CalibrationLog) : Prop :=
  log.lawnServiceId.text ∈ db.lawnServices.map Store.LawnServiceRow.id

theorem served_of_row {db : Database} (hIntact : Intact db) {row : Store.LogRow}
    {log : CalibrationLog} (hRow : row ∈ db.logs) (hRead : row.toLog = .ok log) : Served db log := by
  have hReferred := hIntact.lawnServiceOf row hRow
  obtain ⟨service, hService, hId⟩ := List.mem_map.1 hReferred
  obtain ⟨id, hText⟩ := hIntact.lawnServiceTexts service hService
  obtain ⟨-, -, hColumn, -⟩ := Store.LogRow.toLog_eq_ok hRead
  have hWritten := Store.eq_text_of_readIdentifier hColumn ⟨id, hId.symm.trans hText⟩
  rw [hWritten] at hReferred
  exact hReferred

/-! ### No log is without its lawn service -/

section Agreement

variable {α β : Type} {db : Database}

/-- An action that succeeds with a value of some kind has left the database alone. -/
def Keeps (action : Action Database α) (db : Database) (values : α → Prop) : Prop :=
  Results action db fun outcome after => ∀ value, outcome = .ok value → after = db ∧ values value

private theorem keeps_pure {value : α} {values : α → Prop} (hValue : values value) :
    Keeps (pure value : Action Database α) db values :=
  results_pure fun _ hOk => by
    cases hOk
    exact ⟨rfl, hValue⟩

theorem Keeps.bind {first : Action Database β} {next : β → Action Database α}
    {values : β → Prop} {others : α → Prop} (hFirst : Keeps first db values)
    (hNext : ∀ value, values value → Keeps (next value) db others) :
    Keeps (first >>= next) db others := by
  unfold Keeps Results at hFirst ⊢
  rw [run_bind]
  cases hRun : first.run.run db with
  | mk outcome after =>
      rw [hRun] at hFirst
      cases outcome with
      | ok value =>
          obtain ⟨rfl, hValue⟩ := hFirst value rfl
          exact hNext value hValue
      | error error =>
          intro value hOk
          cases hOk

private theorem run_bind_left {first former : Action Database β} {next : β → Action Database α}
    (hFirst : first.run.run db = former.run.run db) :
    (first >>= next).run.run db = (former >>= next).run.run db := by
  rw [run_bind, run_bind, hFirst]

/-- Two sequences of actions agree if they do after their first action. -/
theorem Keeps.run_bind_congr {first : Action Database β} {next other : β → Action Database α}
    {values : β → Prop} (hFirst : Keeps first db values)
    (hNext : ∀ value, values value → (next value).run.run db = (other value).run.run db) :
    (first >>= next).run.run db = (first >>= other).run.run db := by
  unfold Keeps Results at hFirst
  rw [run_bind, run_bind]
  cases hRun : first.run.run db with
  | mk outcome after =>
      rw [hRun] at hFirst
      cases outcome with
      | ok value =>
          obtain ⟨rfl, hValue⟩ := hFirst value rfl
          exact hNext value hValue
      | error error => rfl

private theorem keeps_query {question : Database → Except StoreError α} :
    Keeps (query question) db fun answer => question db = .ok answer := by
  refine results_query (fun error value hOk => by cases hOk) fun answer hAnswer value hValue => ?_
  cases hValue
  exact ⟨rfl, hAnswer⟩

private theorem keeps_load {entity : Store.EntityName} {key : String}
    {question : Database → Except StoreError (Option α)} :
    Keeps (load entity key question) db fun found => question db = .ok (some found) := by
  refine results_load (fun error value hOk => by cases hOk) fun found hFound value hValue => ?_
  cases hValue
  exact ⟨rfl, hFound⟩

theorem keeps_lookUp {id : LawnServiceId} {known : Known} (hKnown : AllFound known)
    (hStored : id.text ∈ db.lawnServices.map Store.LawnServiceRow.id) :
    Keeps (lookUp id known) db fun found => found.1.isSome = true ∧ AllFound found.2 := by
  unfold lookUp
  split
  · rename_i service hLookup
    have hMember : (id, service) ∈ known := by
      obtain ⟨before, after, hSplit, -⟩ := List.lookup_eq_some_iff.1 hLookup
      simp [hSplit]
    refine results_pure fun found hFound => ?_
    cases hFound
    exact ⟨rfl, hKnown _ hMember, hKnown⟩
  · refine results_query_bind (fun error found hFound => by cases hFound) fun service hLoad => ?_
    have hSome : service.isSome = true := Database.loadLawnService_isSome hStored hLoad
    refine results_pure fun found hFound => ?_
    cases hFound
    exact ⟨rfl, hSome, List.forall_mem_cons.2 ⟨hSome, hKnown⟩⟩

variable {missing : CalibrationLog → Action Database CalibrationLog} {budget : Budget}

theorem keeps_complete {log : CalibrationLog} {known : Known} (hKnown : AllFound known)
    (hServed : Served db log) :
    Keeps (complete budget log known) db fun completed => AllFound completed.2 := by
  refine keeps_query.bind fun records _ => (keeps_lookUp hKnown hServed).bind fun found hFound => ?_
  obtain ⟨service, known⟩ := found
  cases service with
  | some service => exact keeps_pure hFound.2
  | none => cases hFound.1

private theorem run_completeOr {log : CalibrationLog} {known : Known} (hKnown : AllFound known)
    (hServed : Served db log) :
    (completeOr missing budget log known).run.run db = (complete budget log known).run.run db := by
  refine keeps_query.run_bind_congr fun records _ => ?_
  refine (keeps_lookUp hKnown hServed).run_bind_congr fun found hFound => ?_
  obtain ⟨service, known⟩ := found
  cases service with
  | some service => rfl
  | none => cases hFound.1

private theorem run_completeAllOr {logs : List CalibrationLog} {known : Known}
    (hKnown : AllFound known)
    (hServed : ∀ log ∈ logs, Served db log) :
    (completeAllOr missing budget logs known).run.run db =
      (completeAll budget logs known).run.run db := by
  induction logs generalizing known with
  | nil => rfl
  | cons log logs ih =>
      obtain ⟨hLog, hLogs⟩ := List.forall_mem_cons.1 hServed
      refine (run_bind_left (run_completeOr hKnown hLog)).trans ?_
      refine (keeps_complete hKnown hLog).run_bind_congr fun completed hAfter => ?_
      exact run_bind_left (ih hAfter hLogs)

private theorem run_map_congr {action former : Action Database β} {f : β → α}
    (hAction : action.run.run db = former.run.run db) :
    (f <$> action).run.run db = (f <$> former).run.run db := by
  rw [run_map, run_map, hAction]

private theorem allFound_nil : AllFound [] :=
  fun _ hEntry => by cases hEntry

private theorem run_updateLogOr (id : CalibrationLogId) (patch : LogPatch)
    (now : Calendar.Instant) :
    (updateLogOr missing budget id patch now).run.run db =
      (updateLog budget id patch now).run.run db := by
  refine keeps_load.run_bind_congr fun log _ => ?_
  have hRest : ∀ changed : CalibrationLog,
      (do
        alter .calibrationLog id.text (Storage.updateLog changed)
        let (log, _) ← completeOr missing budget changed []
        return log : Action Database CalibrationLog).run.run db =
      (do
        alter .calibrationLog id.text (Storage.updateLog changed)
        let (log, _) ← complete budget changed []
        return log : Action Database CalibrationLog).run.run db := by
    intro changed
    have hAlter : Results (alter .calibrationLog id.text (Storage.updateLog changed)) db
        fun outcome after => outcome = .ok () → Served after changed := by
      refine results_alter (fun error hOk => by cases hOk) (fun _ hWrite => ?_) fun after hWrite _ => ?_
      · exact (Database.updateLog_eq_ok hWrite).lost
      · obtain ⟨hService, rfl⟩ := (Database.updateLog_eq_ok hWrite).found
        exact hService
    unfold Results at hAlter
    rw [run_bind, run_bind]
    cases hRun : (alter .calibrationLog id.text (Storage.updateLog changed)).run.run db with
    | mk outcome after =>
        rw [hRun] at hAlter
        cases outcome with
        | ok => exact run_bind_left (run_completeOr allFound_nil (hAlter rfl))
        | error error => rfl
  cases patch.lawnServiceId with
  | none => exact hRest _
  | some service => exact keeps_load.run_bind_congr fun _ _ => hRest _

end Agreement

theorem performOr_eq_perform {db : Database} (hIntact : Intact db)
    (missing : CalibrationLog → Action Database CalibrationLog) (occasion : Occasion) :
    occasion.performOr missing db = occasion.perform db := by
  obtain ⟨call, budget, around⟩ := occasion
  cases call with
  | readLog id =>
      refine run_map_congr (keeps_load.run_bind_congr fun log hLoad => ?_)
      obtain ⟨row, hRow, -, hRead⟩ := Database.loadLog_eq_ok_some hLoad
      exact run_bind_left (run_completeOr allFound_nil (served_of_row hIntact hRow hRead))
  | readLogs filter =>
      refine run_map_congr (keeps_query.run_bind_congr fun logs hList => ?_)
      refine run_completeAllOr allFound_nil fun log hLog => ?_
      obtain ⟨row, hRow, -, hRead⟩ := Database.mem_listLogs hList hLog
      exact served_of_row hIntact hRow hRead
  | updateLog id patch => exact run_map_congr (run_updateLogOr id patch around.now)
  | _ => rfl

/-- After every run under a clock that does not go back, the rows of the database are sound and in
the order of their times, and no further call meets a log whose lawn service is not stored: it
answers the same, and leaves the same, whatever is done with such a log. -/
theorem run_keeps_database_sound (run : List Occasion) (hRises : ClockRises run) :
    (performAll run Database.empty).Sound ∧
      (∃ clock, (performAll run Database.empty).Timed clock) ∧
      ∀ (missing : CalibrationLog → Action Database CalibrationLog) (occasion : Occasion),
        occasion.performOr missing (performAll run Database.empty) =
          occasion.perform (performAll run Database.empty) := by
  have hIntact := intact_performAll run
  obtain ⟨clock, hClock⟩ := exists_clock hRises
  exact ⟨hIntact.toSound, ⟨clock, timed_performAll hRises hClock⟩, performOr_eq_perform hIntact⟩

/-- A formulation that is renamed a second later. -/
theorem renamed_formulation_kept_sound :
    let morning := Calendar.Instant.startOfDay ⟨2025, 3, 1, by decide⟩
    let later := { morning with second := 1, second_lt := by decide, leap := by decide }
    let run : List Occasion := [
      ⟨.createFormulation ⟨"Granular"⟩, ⟨100⟩, ⟨morning, 7⟩⟩,
      ⟨.updateFormulation ⟨7⟩ ⟨some "Liquid"⟩, ⟨100⟩, ⟨later, 8⟩⟩]
    ClockRises run ∧ (performAll run Database.empty).Sound := by
  intro morning later run
  have hRises : ClockRises run := by
    unfold ClockRises
    decide
  exact ⟨hRises, (run_keeps_database_sound run hRises).1⟩

end LawnCalibration.Service
