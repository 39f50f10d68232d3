import LawnCalibration.Proofs.Service.Issue
import LawnCalibration.Proofs.Service.Readings

/-
What a call that succeeds has done.

A creation adds one row, and the calls that ask for the new entity show it.  A
change puts one row in the place of another and leaves all other rows alone; the
entity that it answers is the stored one with the fields of the patch.  A row is
shown as it was written until a call that is addressed to it writes again.
-/

set_option autoImplicit false

namespace LawnCalibration.Service

open Calendar (Instant)
open Formula (Budget)
open Store (Database EntityName Row)
open Store.Database (Adds Intact Legible Overwrites Replaces)
open Service.Action

def Answer.item? : Answer → Option Item
  | .unit value => some (.unit value)
  | .formulation value => some (.formulation value)
  | .lawnService value => some (.lawnService value)
  | .log value => some (.log value)
  | .record value => some (.record value)
  | _ => none

namespace Call

def IsCreation : Call → Prop
  | .createUnit _ | .createFormulation _ | .createLawnService _ => True
  | .createLog _ _ | .createRecord _ _ => True
  | _ => False

def IsChange : Call → Prop
  | .updateUnit _ _ | .updateFormulation _ _ | .updateLawnService _ _ => True
  | .updateLog _ _ | .updateRecord _ _ => True
  | _ => False

/-- The key of the row that a call is to change or to delete. -/
def target : Call → Option (EntityName × String)
  | .updateUnit symbol _ => some (.unit, symbol)
  | .updateFormulation id _ => some (.formulation, id.text)
  | .updateLawnService id _ => some (.lawnService, id.text)
  | .updateLog id _ | .deleteLog id => some (.calibrationLog, id.text)
  | .updateRecord id _ | .deleteRecord id => some (.calibrationRecord, id.text)
  | _ => none

/-- What a change makes of a stored entity: the fields that the patch carries are replaced, the time
of the last change is that of the call, and everything else stays. -/
def changed (now : Instant) : Call → Item → Option Item
  | .updateUnit _ patch, .unit unit => some (.unit { unit with
      name := patch.name.getD unit.name
      updatedAt := now })
  | .updateFormulation _ patch, .formulation formulation => some (.formulation { formulation with
      name := patch.name.getD formulation.name
      updatedAt := now })
  | .updateLawnService _ patch, .lawnService service => some (.lawnService { service with
      code := patch.code.getD service.code
      description := patch.description.getD service.description
      formulationId := patch.formulationId.getD service.formulationId
      targetCalibrationValue := patch.targetCalibrationValue.getD service.targetCalibrationValue
      targetCalibrationUnit := patch.targetCalibrationUnit.getD service.targetCalibrationUnit
      measurementUnit := patch.measurementUnit.getD service.measurementUnit
      calibrationFunction := patch.calibrationFunction.getD service.calibrationFunction
      differentialCalibrationFunction :=
        patch.differentialCalibrationFunction.getD service.differentialCalibrationFunction
      updatedAt := now })
  | .updateLog _ patch, .log log => some (.log { log with
      userId := patch.userId.getD log.userId
      lawnServiceId := patch.lawnServiceId.getD log.lawnServiceId
      updatedAt := now })
  | .updateRecord _ patch, .record record => some (.record { record with
      calibrationLogId := patch.calibrationLogId.getD record.calibrationLogId
      measurementValue := patch.measurementValue.getD record.measurementValue
      measurementUnit := patch.measurementUnit.getD record.measurementUnit
      measurementArea := patch.measurementArea.getD record.measurementArea
      updatedAt := now })
  | _, _ => none

end Call

/-! ### A creation -/

section Steps

variable {db after : Database} {around : Circumstance} {call : Call} {answer : Answer}

/-- No record belongs to a new log yet. -/
private theorem logCreated_shows {log : CalibrationLog} (hIntact : Intact db)
    (hAfter : Intact after)
    (hWrite : db.insertLog log = .ok after) (hLive : log.deletedAt = none) (hKept : log.kept = log)
    (reading : Occasion) (hAsks : reading.call.Asks (.log log)) :
    Shows after (.log log) (reading.perform after).1 := by
  obtain ⟨hFresh, -, rfl⟩ := Database.insertLog_eq_ok hWrite
  have hRow : Database.isLiveLog log.id.text
      (.ofLog (Store.nextNumber Store.LogRow.number db.logs) log) = true := by
    refine Database.isLiveLog_iff.2 ⟨rfl, ?_⟩
    rw [Store.LogRow.ofLog, hLive]
    rfl
  refine shows_log hAfter (List.mem_append_right _ List.mem_cons_self) hRow
    (Store.LogRow.tells log) hKept ?_ hAsks
  intro record hRecord hSame
  exact hFresh (hSame ▸ hIntact.logOf record hRecord)

private theorem recordCreated_shows {record : CalibrationRecord} {log : CalibrationLog}
    (hLog : db.loadLog record.calibrationLogId = .ok (some log))
    (hWrite : db.insertRecord record = .ok after)
    (hBare : { record with calibration := 0.0 } = record)
    (reading : Occasion) (hAsks : reading.call.Asks (.record record)) :
    Shows after (.record record) (reading.perform after).1 := by
  obtain ⟨-, -, -, rfl⟩ := Database.insertRecord_eq_ok hWrite
  obtain ⟨row, hRow, hLive, -⟩ := Database.loadLog_eq_ok_some hLog
  exact shows_record (List.mem_append_right _ List.mem_cons_self)
    (Store.RecordRow.tells fun _ => Store.eq_of_readInstant_instantText) hBare rfl
    ⟨row, hRow, hLive⟩ hAsks

/-- A creation that succeeds adds the row of the entity that it answers, and the calls that ask for
this entity show it. -/
theorem Step.creates (hStep : Step around db call (.ok answer) after) (hIntact : Intact db)
    (hCreation : call.IsCreation) :
    ∃ item, answer.item? = some item ∧ Adds db after item ∧
      ∀ reading : Occasion, reading.call.Asks item → Shows after item (reading.perform after).1 := by
  have hAfter : Intact after := hStep.intact hIntact
  generalize hOutcome : (Except.ok answer : Except ServiceError Answer) = outcome at hStep
  cases hStep with
  | unitCreated hValid hWrite =>
      cases hOutcome
      have hAdds := Database.insertUnit_adds hWrite
      exact ⟨_, rfl, hAdds, fun _ => shows_unit hAdds.has⟩
  | formulationCreated hValid hWrite =>
      cases hOutcome
      have hAdds := Database.insertFormulation_adds hWrite
      exact ⟨_, rfl, hAdds, fun _ => shows_formulation hAdds.has⟩
  | lawnServiceCreated hValid hWrite =>
      cases hOutcome
      have hAdds := Database.insertLawnService_adds hWrite
      exact ⟨_, rfl, hAdds, fun _ => shows_lawnService hAfter hAdds.has⟩
  | logCreated hWrite =>
      cases hOutcome
      exact ⟨_, rfl, Database.insertLog_adds hWrite,
        logCreated_shows hIntact hAfter hWrite rfl rfl⟩
  | recordCreated hValid hLog hWrite =>
      cases hOutcome
      exact ⟨_, rfl, Database.insertRecord_adds hWrite, recordCreated_shows hLog hWrite rfl⟩
  | refused call error => cases hOutcome
  | _ => cases hCreation

/-! ### A change -/

private theorem changed_bare_record {id : CalibrationRecordId} {patch : RecordPatch}
    {record : CalibrationRecord} (hLoad : db.loadRecord id = .ok (some record)) :
    (Call.updateRecord id patch).changed around.now (.record record) =
      some (Item.record { patch.apply record with updatedAt := around.now }).bare := by
  obtain ⟨row, -, -, hRead⟩ := Database.loadRecord_eq_ok_some hLoad
  obtain ⟨-, -, -, hCalibration⟩ := Store.RecordRow.toRecord_eq_ok hRead
  simp only [Call.changed, Item.bare, RecordPatch.apply, hCalibration]

private theorem changed_bare_log {id : CalibrationLogId} {patch : LogPatch}
    {log completed : CalibrationLog}
    (hLoad : db.loadLog id = .ok (some log))
    (hAttaches : Attaches after { patch.apply log with updatedAt := around.now } completed) :
    (Call.updateLog id patch).changed around.now (.log log) = some (Item.log completed).bare := by
  obtain ⟨row, -, -, hRead⟩ := Database.loadLog_eq_ok_some hLoad
  obtain ⟨-, -, -, -, -, -, hCalibration, hRecords⟩ := Store.LogRow.toLog_eq_ok hRead
  rw [Item.bare, hAttaches.kept]
  simp only [Call.changed, CalibrationLog.kept, LogPatch.apply, hCalibration, hRecords]

private theorem logUpdated_overwrites (hIntact : Intact db) {id : CalibrationLogId}
    {patch : LogPatch}
    {log : CalibrationLog} (hLoad : db.loadLog id = .ok (some log))
    (hWrite : db.updateLog { patch.apply log with updatedAt := around.now } = .ok (true, after)) :
    Overwrites db after (.log log) (.log { patch.apply log with updatedAt := around.now }) := by
  have hWritten : db.updateLog { log with
      userId := patch.userId.getD log.userId
      lawnServiceId := patch.lawnServiceId.getD log.lawnServiceId
      updatedAt := around.now } = .ok (true, after) := hWrite
  exact Database.updateLog_overwrites hIntact hLoad hWritten

/-- A step that changes an entity, a log apart: the row of the entity that the call names gives way
to that of the changed one. -/
theorem Step.changes (hStep : Step around db call (.ok answer) after) (hIntact : Intact db)
    (hChange : call.IsChange) (hOther : ∀ id patch, call ≠ .updateLog id patch) :
    ∃ stored item, answer.item? = some item ∧ call.target = some item.key ∧
      call.changed around.now stored = some item.bare ∧ Overwrites db after stored item := by
  generalize hOutcome : (Except.ok answer : Except ServiceError Answer) = outcome at hStep
  cases hStep with
  | unitUpdated hLoad hValid hWrite =>
      cases hOutcome
      obtain rfl := Database.loadUnit_symbol hLoad
      exact ⟨_, _, rfl, rfl, rfl, Database.updateUnit_overwrites hIntact hLoad hWrite rfl rfl⟩
  | formulationUpdated hLoad hValid hWrite =>
      cases hOutcome
      obtain rfl := Database.loadFormulation_id hLoad
      exact ⟨_, _, rfl, rfl, rfl, Database.updateFormulation_overwrites hIntact hLoad hWrite rfl rfl⟩
  | lawnServiceUpdated hLoad hValid hWrite =>
      cases hOutcome
      obtain rfl := Database.loadLawnService_id hLoad
      exact ⟨_, _, rfl, rfl, rfl, Database.updateLawnService_overwrites hIntact hLoad hWrite rfl rfl⟩
  | recordUpdated hLoad hValid hWrite =>
      cases hOutcome
      obtain rfl := Database.loadRecord_id hLoad
      exact ⟨_, _, rfl, rfl, changed_bare_record hLoad,
        Database.updateRecord_overwrites hIntact hLoad hWrite rfl rfl⟩
  | logUpdated hLoad hWrite hCompletes => exact absurd rfl (hOther _ _)
  | refused call error => cases hOutcome
  | _ => cases hChange

theorem changes_of_perform {budget : Budget} (hIntact : Intact db) (hChange : call.IsChange)
    (hDone : call.perform budget around db = (.ok answer, after)) :
    ∃ stored item, answer.item? = some item ∧ call.target = some item.key ∧
      call.changed around.now stored = some item.bare ∧ Overwrites db after stored item := by
  by_cases hLog : ∃ id patch, call = .updateLog id patch
  · obtain ⟨id, patch, rfl⟩ := hLog
    obtain ⟨result, hOk, hUpdate⟩ := logUpdate_perform hDone
    cases hUpdate with
    | @done log completed after hLoad hService hWrite hAttaches =>
        cases hOk
        obtain ⟨old, new, hRead, hReplaces, hTells⟩ := logUpdated_overwrites hIntact hLoad hWrite
        have hTold : new.Tells (.log completed) :=
          hTells.of_bare (congrArg Item.log hAttaches.kept.symm)
        have hSame := congrArg CalibrationLog.id hAttaches.kept
        have hId : completed.id = log.id := hSame
        refine ⟨.log log, .log completed, rfl, ?_, changed_bare_log hLoad hAttaches,
          old, new, hRead, hReplaces, hTold⟩
        rw [Item.key, hId, Database.loadLog_id hLoad, Call.target]
    | refused error => cases hOk
    | unread hLoad hService hWrite hFails => cases hOk
  · have hStep := step_perform call budget around db
    rw [hDone] at hStep
    refine hStep.changes hIntact hChange ?_
    intro id patch hSame
    exact hLog ⟨id, patch, hSame⟩

/-- A call leaves the rows alone that it is not addressed to. -/
theorem Step.mem_rows {outcome : Except ServiceError Answer}
    (hStep : Step around db call outcome after) (hIntact : Intact db) {row : Row}
    (hRow : row ∈ db.rows) (hTarget : call.target ≠ some row.key) : row ∈ after.rows := by
  have hOther : ∀ key, call.target = some key → row.key ≠ key := by
    intro key hKey hSame
    exact hTarget (hSame ▸ hKey)
  cases hStep with
  | unitCreated hValid hWrite => exact (Database.insertUnit_adds hWrite).mem_rows hRow
  | formulationCreated hValid hWrite => exact (Database.insertFormulation_adds hWrite).mem_rows hRow
  | lawnServiceCreated hValid hWrite => exact (Database.insertLawnService_adds hWrite).mem_rows hRow
  | logCreated hWrite => exact (Database.insertLog_adds hWrite).mem_rows hRow
  | recordCreated hValid hLog hWrite => exact (Database.insertRecord_adds hWrite).mem_rows hRow
  | unitUpdated hLoad hValid hWrite =>
      obtain rfl := Database.loadUnit_symbol hLoad
      refine (Database.updateUnit_overwrites hIntact hLoad hWrite rfl rfl).mem_rows hRow ?_
      exact hOther _ rfl
  | formulationUpdated hLoad hValid hWrite =>
      obtain rfl := Database.loadFormulation_id hLoad
      refine (Database.updateFormulation_overwrites hIntact hLoad hWrite rfl rfl).mem_rows hRow ?_
      exact hOther _ rfl
  | lawnServiceUpdated hLoad hValid hWrite =>
      obtain rfl := Database.loadLawnService_id hLoad
      refine (Database.updateLawnService_overwrites hIntact hLoad hWrite rfl rfl).mem_rows hRow ?_
      exact hOther _ rfl
  | recordUpdated hLoad hValid hWrite =>
      obtain rfl := Database.loadRecord_id hLoad
      refine (Database.updateRecord_overwrites hIntact hLoad hWrite rfl rfl).mem_rows hRow ?_
      exact hOther _ rfl
  | logUpdated hLoad hWrite hCompletes =>
      obtain rfl := Database.loadLog_id hLoad
      refine (logUpdated_overwrites hIntact hLoad hWrite).mem_rows hRow ?_
      exact hOther _ rfl
  | logDeleted hWrite =>
      obtain ⟨old, new, hKey, hReplaces⟩ := Database.deleteLog_replaces hIntact hWrite
      refine hReplaces.mem_rows hRow ?_
      rw [hKey]
      exact hOther _ rfl
  | recordDeleted hWrite => exact Database.deleteRecord_mem_rows hWrite hRow (hOther _ rfl)
  | _ => exact hRow

end Steps

/-! ### Later calls -/

/-- Every call of a run that is addressed to the row of a key leaves the database as it is. -/
def Spares (later : List Occasion) (db : Database) (key : EntityName × String) : Prop :=
  ∀ moment ∈ moments later db, moment.1.call.target = some key →
    (moment.1.perform moment.2).2 = moment.2

/-- By induction on the run: a row that every call spares is still there. -/
theorem mem_rows_of_spares {later : List Occasion} {db : Database} {row : Row} (hIntact : Intact db)
    (hRow : row ∈ db.rows) (hSpares : Spares later db row.key) :
    row ∈ (performAll later db).rows := by
  induction later generalizing db with
  | nil => exact hRow
  | cons occasion later ih =>
      obtain ⟨hFirst, hRest⟩ := List.forall_mem_cons.1 hSpares
      have hStep := step_perform occasion.call occasion.budget occasion.around db
      have hNext : row ∈ (occasion.perform db).2.rows := by
        by_cases hTarget : occasion.call.target = some row.key
        · have hSame : (occasion.perform db).2 = db := hFirst hTarget
          rw [hSame]
          exact hRow
        · exact hStep.mem_rows hIntact hRow hTarget
      exact ih (occasion.intact hIntact) hNext hRest

private theorem performAll_append {σ : Type} [Storage σ] (run later : List Occasion) (store : σ) :
    performAll (run ++ later) store = performAll later (performAll run store) :=
  Run.final_append run later store

/-- After a run, a row has the key of the entity that is read from it. -/
private theorem key_of_read (run : List Occasion) {row : Row}
    (hRow : row ∈ (performAll run Database.empty).rows) {item : Item} (hRead : row.read = .ok item) :
    row.key = item.key := by
  have hIssued : ∀ (kind : Kind) (text : String),
      text ∈ (performAll run Database.empty).identifiers kind →
        ∃ id : Identifier kind, text = id.text := by
    intro kind text hText
    obtain ⟨id, -, hSame⟩ := exists_issued run hText
    exact ⟨id, hSame⟩
  cases row with
  | unit row =>
      rw [Row.read, Store.map_eq_ok_iff] at hRead
      obtain ⟨value, hValue, rfl⟩ := hRead
      exact congrArg (Prod.mk _) (Store.UnitRow.toUnit_eq_ok hValue).1
  | formulation row =>
      have hText := hIssued .formulation row.id
        (List.mem_map_of_mem (Database.mem_rows_formulation.1 hRow))
      rw [Row.read, Store.map_eq_ok_iff] at hRead
      obtain ⟨value, hValue, rfl⟩ := hRead
      exact congrArg (Prod.mk _) (Store.eq_text_of_readIdentifier
        (Store.FormulationRow.toFormulation_eq_ok hValue).1 hText)
  | lawnService row =>
      have hText := hIssued .lawnService row.id
        (List.mem_map_of_mem (Database.mem_rows_lawnService.1 hRow))
      rw [Row.read, Store.map_eq_ok_iff] at hRead
      obtain ⟨value, hValue, rfl⟩ := hRead
      exact congrArg (Prod.mk _) (Store.eq_text_of_readIdentifier
        (Store.LawnServiceRow.toLawnService_eq_ok hValue).1 hText)
  | log row =>
      have hText := hIssued .calibrationLog row.id
        (List.mem_map_of_mem (Database.mem_rows_log.1 hRow))
      rw [Row.read, Store.map_eq_ok_iff] at hRead
      obtain ⟨value, hValue, rfl⟩ := hRead
      exact congrArg (Prod.mk _) (Store.eq_text_of_readIdentifier
        (Store.LogRow.toLog_eq_ok hValue).1 hText)
  | record row =>
      have hText := hIssued .calibrationRecord row.id
        (List.mem_map_of_mem (Database.mem_rows_record.1 hRow))
      rw [Row.read, Store.map_eq_ok_iff] at hRead
      obtain ⟨value, hValue, rfl⟩ := hRead
      exact congrArg (Prod.mk _) (Store.eq_text_of_readIdentifier
        (Store.RecordRow.toRecord_eq_ok hValue).1 hText)

/-- A row that every call of a later run spares is shown as the entity that was written to it. -/
theorem shown_of_spares {run later : List Occasion} {item : Item}
    (hHas : Database.Has (performAll run Database.empty) item)
    (hSpares : Spares later (performAll run Database.empty) item.key) {reading : Occasion}
    (hReading : reading.call.IsReading) {found : Answer}
    (hFound : (reading.perform (performAll later (performAll run Database.empty))).1 = .ok found)
    {shown : Item} (hShown : shown ∈ found.items) (hKey : shown.key = item.key) :
    shown.bare.Same item.bare := by
  obtain ⟨row, hRow, hTells⟩ := hHas
  rw [← hTells.key] at hSpares
  have hKept := mem_rows_of_spares (intact_performAll run) hRow hSpares
  have hTruthful := truthful_reading hReading reading.budget reading.around
    found hFound shown hShown
  rw [← performAll_append] at hKept hTruthful
  obtain ⟨other, hOther, hRead⟩ := hTruthful
  have hOtherKey : other.key = row.key := by
    rw [key_of_read (run ++ later) hOther hRead, Item.key_bare, hKey, hTells.key]
  obtain rfl := (intact_performAll (run ++ later)).eq_of_key hOther hKept hOtherKey
  exact (hTells.read shown.bare hRead).2

/-- After any run, a creation that succeeds adds one row, and every call that asks for the new entity
is answered and shows it, if the clock has shown years of four digits until then.  A change that
succeeds answers the stored entity that it names, with the fields of the patch, and puts its row in
the place of the old one; from then on every answer that shows the entity shows it so, until the row
is written again. -/
theorem successful_call_effects (run : List Occasion) (occasion : Occasion) (answer : Answer)
    (after : Database)
    (hDone : occasion.perform (performAll run Database.empty) = (.ok answer, after)) :
    (occasion.call.IsCreation →
      ∃ item, answer.item? = some item ∧ Adds (performAll run Database.empty) after item ∧
        (ClockInRange (run ++ [occasion]) → ∀ reading : Occasion, reading.call.Asks item →
          ∃ found, (reading.perform after).1 = .ok found ∧
            ∃ shown ∈ found.items, shown.Same item)) ∧
    (occasion.call.IsChange →
      ∃ stored item, answer.item? = some item ∧ occasion.call.target = some item.key ∧
        occasion.call.changed occasion.now stored = some item.bare ∧
        Overwrites (performAll run Database.empty) after stored item ∧
        ∀ (later : List Occasion) (reading : Occasion) (found : Answer),
          Spares later after item.key → reading.call.IsReading →
          (reading.perform (performAll later after)).1 = .ok found →
            ∀ shown ∈ found.items, shown.key = item.key → shown.bare.Same item.bare) := by
  have hAfter : after = performAll (run ++ [occasion]) Database.empty := by
    rw [performAll_concat, hDone]
  have hIntact := intact_performAll run
  refine ⟨fun hCreation => ?_, fun hChange => ?_⟩
  · have hStep := step_perform occasion.call occasion.budget occasion.around
      (performAll run Database.empty)
    change Step _ _ _ (occasion.perform _).1 (occasion.perform _).2 at hStep
    rw [hDone] at hStep
    obtain ⟨item, hItem, hAdds, hShows⟩ := hStep.creates hIntact hCreation
    refine ⟨item, hItem, hAdds, fun hClock reading hAsks => ?_⟩
    have hLegible : Legible after := hAfter ▸ legible_performAll hClock
    have hShown := hShows reading hAsks
    cases hOutcome : (reading.perform after).1 with
    | ok found =>
        rw [hOutcome] at hShown
        cases hShown with
        | shown hMember hYear hSame => exact ⟨found, rfl, _, hMember, hSame⟩
    | error error =>
        rw [hOutcome] at hShown
        cases hShown with
        | unread error hIllegible => exact absurd hLegible hIllegible
  · obtain ⟨stored, item, hItem, hTarget, hChanged, hOverwrites⟩ :=
      changes_of_perform hIntact hChange hDone
    refine ⟨stored, item, hItem, hTarget, hChanged, hOverwrites, ?_⟩
    intro later reading found hSpares hReading hFound shown hShown hKey
    have hHas := hOverwrites.has
    subst hAfter
    exact shown_of_spares hHas hSpares hReading hFound hShown hKey

/-- A call that ends a run, by its answer. -/
theorem perform_eq_of_answer {run : List Occasion} {occasion : Occasion} {answer : Answer}
    (hAnswer : (occasion.perform (performAll run Database.empty)).1 = .ok answer) :
    occasion.perform (performAll run Database.empty) =
      (.ok answer, performAll (run ++ [occasion]) Database.empty) := by
  rw [performAll_concat, ← hAnswer]

/-- A formulation that is created is read back, and a second later it is renamed. -/
theorem renamed_formulation_effects :
    let morning := Instant.startOfDay ⟨2025, 3, 1, by decide⟩
    let moment := { morning with second := 1, second_lt := by decide, leap := by decide }
    let creation : Occasion := ⟨.createFormulation ⟨"Granular"⟩, ⟨100⟩, ⟨morning, 7⟩⟩
    let change : Occasion := ⟨.updateFormulation ⟨7⟩ ⟨some "Liquid"⟩, ⟨100⟩, ⟨moment, 8⟩⟩
    let reading : Occasion := ⟨.readFormulations, ⟨100⟩, ⟨moment, 9⟩⟩
    ClockInRange ([] ++ [creation]) ∧
    (∃ found, (reading.perform (performAll [creation] Database.empty)).1 = .ok found ∧
      ∃ shown ∈ found.items, shown.Same (.formulation ⟨⟨7⟩, "Granular", morning, morning⟩)) ∧
    ∃ stored, Overwrites (performAll [creation] Database.empty)
      (performAll ([creation] ++ [change]) Database.empty) stored
      (.formulation ⟨⟨7⟩, "Liquid", morning, moment⟩) := by
  intro morning moment creation change reading
  have hCreated : (creation.perform (performAll [] Database.empty)).1 =
      .ok (.formulation ⟨⟨7⟩, "Granular", morning, morning⟩) := by decide +kernel
  have hChanged : (change.perform (performAll [creation] Database.empty)).1 =
      .ok (.formulation ⟨⟨7⟩, "Liquid", morning, moment⟩) := by decide +kernel
  have hFirst : ClockInRange ([] ++ [creation]) := by
    unfold ClockInRange
    decide
  refine ⟨hFirst, ?_, ?_⟩
  · obtain ⟨item, hItem, -, hRead⟩ :=
      (successful_call_effects _ _ _ _ (perform_eq_of_answer hCreated)).1 trivial
    cases hItem
    exact hRead hFirst reading trivial
  · obtain ⟨stored, item, hItem, -, -, hOverwrites, -⟩ :=
      (successful_call_effects _ _ _ _ (perform_eq_of_answer hChanged)).2 trivial
    cases hItem
    exact ⟨stored, hOverwrites⟩

end LawnCalibration.Service
