import LawnCalibration.Proofs.Service.Completion
import LawnCalibration.Proofs.Service.Issue
import LawnCalibration.Proofs.Store.Refusals

/-
When the storage refuses a call.

As long as the clock shows years of four digits and identifiers are new, the
storage answers every question of a call, and it refuses a write for a single
reason: a symbol, a name or a code that another row has.
-/

set_option autoImplicit false

namespace LawnCalibration.Service

open Formula (Budget)
open Store (Database UnitRow FormulationRow LawnServiceRow LogRow RecordRow)
open Store.Database (Intact Legible)
open Service.Action

/-! ### Refusals of the storage -/

section Refusals

variable {σ α β : Type} {store : σ} {reason : StoreError → Prop}

/-- An action passes on just those errors of the storage for which there is a reason. -/
def RefusesFor (reason : StoreError → Prop) (action : Action σ α) (store : σ) : Prop :=
  Results action store fun outcome _ => ∀ error, outcome = .error (.store error) ↔ reason error

private theorem refusesFor_pure {value : α} (hNone : ∀ error, ¬ reason error) :
    RefusesFor reason (pure value : Action σ α) store := by
  apply results_pure
  intro error
  simp [hNone error]

theorem RefusesFor.map {action : Action σ β} {f : β → α} (hAction : RefusesFor reason action store) :
    RefusesFor reason (f <$> action) store := by
  unfold RefusesFor Results at hAction
  apply results_map
  unfold Results
  generalize (action.run.run store).1 = outcome at hAction ⊢
  intro error
  rw [← hAction error]
  cases outcome with
  | error other => simp [Except.map]
  | ok value => simp [Except.map]

private theorem refusesFor_stop {error : ServiceError} (hOwn : ∀ cause, error ≠ .store cause)
    (hNone : ∀ cause, ¬ reason cause) (cause : StoreError) :
    (.error error : Except ServiceError α) = .error (.store cause) ↔ reason cause := by
  simp [hOwn cause, hNone cause]

private theorem refusesFor_check_bind {validity : Except Entity.Invalid Unit}
    {next : Unit → Action σ α}
    (hNeeds : ∀ error, reason error → validity = .ok ())
    (hValid : validity = .ok () → RefusesFor reason (next ()) store) :
    RefusesFor reason (check validity >>= next) store := by
  refine results_check_bind_of ?_ hValid
  intro invalid hInvalid
  apply refusesFor_stop
  · intro cause hSame
    cases hSame
  · intro cause hReason
    have hOk := hNeeds cause hReason
    rw [hInvalid] at hOk
    cases hOk

private theorem refusesFor_query_bind {question : σ → Except StoreError β} {next : β → Action σ α}
    (hTotal : ∃ answer, question store = .ok answer)
    (hAnswer : ∀ answer, question store = .ok answer → RefusesFor reason (next answer) store) :
    RefusesFor reason (query question >>= next) store :=
  results_query_bind_total hTotal hAnswer

theorem refusesFor_query {question : σ → Except StoreError α}
    (hTotal : ∃ answer, question store = .ok answer) (hNone : ∀ error, ¬ reason error) :
    RefusesFor reason (query question) store := by
  rw [← bind_pure (query question)]
  exact refusesFor_query_bind hTotal fun _ _ => refusesFor_pure hNone

private theorem refusesFor_load_bind {entity : Store.EntityName} {key : String}
    {question : σ → Except StoreError (Option β)} {next : β → Action σ α}
    (hTotal : ∃ answer, question store = .ok answer)
    (hNeeds : ∀ error, reason error → ∃ found, question store = .ok (some found))
    (hFound : ∀ found, question store = .ok (some found) → RefusesFor reason (next found) store) :
    RefusesFor reason (load entity key question >>= next) store := by
  refine results_load_bind_total hTotal ?_ hFound
  intro hMissing
  apply refusesFor_stop
  · intro cause hSame
    cases hSame
  · intro cause hReason
    obtain ⟨found, hFound⟩ := hNeeds cause hReason
    rw [hMissing] at hFound
    cases hFound

theorem refusesFor_load {entity : Store.EntityName} {key : String}
    {question : σ → Except StoreError (Option α)} (hTotal : ∃ answer, question store = .ok answer)
    (hNone : ∀ error, ¬ reason error) : RefusesFor reason (load entity key question) store := by
  rw [← bind_pure (load entity key question)]
  refine refusesFor_load_bind hTotal ?_ fun _ _ => refusesFor_pure hNone
  intro error hReason
  exact absurd hReason (hNone error)

private theorem refusesFor_add_bind {insertion : σ → Except StoreError σ} {value : α}
    (hReason : ∀ error, insertion store = .error error ↔ reason error) :
    RefusesFor reason (do add insertion; return value) store := by
  apply results_add_bind_of
  · intro error hError other
    rw [← hReason, hError]
    simp
  · intro after hAfter
    apply refusesFor_pure
    intro error hError
    rw [← hReason, hAfter] at hError
    cases hError

private theorem refusesFor_alter_bind {entity : Store.EntityName} {key : String}
    {change : σ → Except StoreError (Bool × σ)} {next : Unit → Action σ α}
    (hReason : ∀ error, change store = .error error ↔ reason error)
    (hNext : (∀ error, ¬ reason error) → ∀ after, change store = .ok (true, after) →
      RefusesFor reason (next ()) after) :
    RefusesFor reason (alter entity key change >>= next) store := by
  have hNone : ∀ written, change store = .ok written → ∀ error, ¬ reason error := by
    intro written hWritten error hError
    rw [← hReason, hWritten] at hError
    cases hError
  apply results_alter_bind_of
  · intro error hError other
    rw [← hReason, hError]
    simp
  · intro after hLost
    apply refusesFor_stop
    · intro cause hSame
      cases hSame
    · exact hNone _ hLost
  · intro after hAltered
    exact hNext (hNone _ hAltered) after hAltered

theorem refusesFor_alter {entity : Store.EntityName} {key : String}
    {change : σ → Except StoreError (Bool × σ)}
    (hReason : ∀ error, change store = .error error ↔ reason error) :
    RefusesFor reason (alter entity key change) store := by
  rw [← bind_pure (alter entity key change)]
  exact refusesFor_alter_bind hReason fun hNone _ _ => refusesFor_pure hNone

end Refusals

section Completions

variable {db : Database} {reason : StoreError → Prop} {α : Type} {budget : Budget}

private theorem refusesFor_complete_bind {log : CalibrationLog} {known : Known}
    {next : CalibrationLog × Known → Action Database α}
    (hRecords : ∀ row ∈ db.records, ∃ record, row.toRecord = .ok record)
    (hServices : ∀ row ∈ db.lawnServices, ∃ service, row.toLawnService = .ok service)
    (hNext : ∀ completed, RefusesFor reason (next completed) db) :
    RefusesFor reason (complete budget log known >>= next) db := by
  apply results_complete_bind_of
  · intro error hFail
    exact absurd hFail (not_completionFails hRecords hServices log error)
  · intro completed after _
    exact hNext (completed, after)

private theorem refusesFor_completeAll {logs : List CalibrationLog} {known : Known}
    (hLegible : Legible db)
    (hNone : ∀ error, ¬ reason error) : RefusesFor reason (completeAll budget logs known) db := by
  rw [← bind_pure (completeAll budget logs known)]
  apply results_completeAll_bind_of
  · intro log _ error hFail
    exact absurd hFail (not_completionFails hLegible.records hLegible.lawnServices log error)
  · intro completed _
    exact refusesFor_pure hNone

end Completions

/-- The calls that ask for a symbol, a name or a code of another row while everything else about
them is right, and the errors that say so. -/
inductive Duplicates (around : Circumstance) (db : Database) : Call → StoreError → Prop
  | unitCreated {draft : UnitDraft} (hValid : (draft.make around.now).validate = .ok ())
      (hUsed : ∃ row ∈ db.units, row.symbol = (draft.make around.now).symbol) :
      Duplicates around db (.createUnit draft) (.conflict .unit (.unique "units.symbol"))
  | formulationCreated {draft : FormulationDraft} (hValid : draft.validate = .ok ())
      (hUsed : ∃ row ∈ db.formulations, row.name = draft.name) :
      Duplicates around db (.createFormulation draft)
        (.conflict .formulation (.unique "formulations.name"))
  | formulationUpdated {id : FormulationId} {patch : FormulationPatch} {formulation : Formulation}
      (hLoad : db.loadFormulation id = .ok (some formulation))
      (hValid : (patch.apply formulation).validate = .ok ())
      (hUsed : ∃ row ∈ db.formulations,
        row.name = (patch.apply formulation).name ∧ row.id ≠ id.text) :
      Duplicates around db (.updateFormulation id patch)
        (.conflict .formulation (.unique "formulations.name"))
  | lawnServiceCreated {draft : LawnServiceDraft} (hValid : draft.validate = .ok ())
      (hFormulation : ∃ found, db.loadFormulation draft.formulationId = .ok (some found))
      (hUsed : ∃ row ∈ db.lawnServices, row.code = draft.code) :
      Duplicates around db (.createLawnService draft)
        (.conflict .lawnService (.unique "lawn_services.code"))
  | lawnServiceUpdated {id : LawnServiceId} {patch : LawnServicePatch} {service : LawnService}
      (hLoad : db.loadLawnService id = .ok (some service))
      (hFormulation : ∀ formulation ∈ patch.formulationId,
        ∃ found, db.loadFormulation formulation = .ok (some found))
      (hValid : (patch.apply service).validate = .ok ())
      (hUsed : ∃ row ∈ db.lawnServices,
        row.code = (patch.apply service).code ∧ row.id ≠ id.text) :
      Duplicates around db (.updateLawnService id patch)
        (.conflict .lawnService (.unique "lawn_services.code"))

/-- What a call can rely on: sound rows that can be read, and new identifiers. -/
structure Ready (around : Circumstance) (call : Call) (db : Database) : Prop where
  intact : Intact db
  legible : Legible db
  /-- the formulations are known by identifiers in their written form -/
  formulationTexts : ∀ row ∈ db.formulations, ∃ id : FormulationId, row.id = id.text
  fresh : ∀ kind, call.generates = some kind →
    Identifier.text (⟨around.freshBits⟩ : Identifier kind) ∉ db.identifiers kind

theorem ready_performAll {run : List Occasion} {occasion : Occasion} (hClock : ClockInRange run)
    (hFresh : FreshIds (run ++ [occasion])) :
    Ready occasion.around occasion.call (performAll run Database.empty) where
  intact := intact_performAll run
  legible := legible_performAll hClock
  formulationTexts row hRow := by
    have hMember : row.id ∈ (performAll run Database.empty).identifiers .formulation :=
      List.mem_map_of_mem hRow
    obtain ⟨id, -, hText⟩ := exists_issued run hMember
    exact ⟨id, hText⟩
  fresh _ hKind := hFresh.not_mem_identifiers hKind

private theorem loaded_unique {α : Type} {answer : Except StoreError (Option α)} {found other : α}
    (hFound : answer = .ok (some found)) (hOther : answer = .ok (some other)) : other = found :=
  Option.some.inj (Except.ok.inj (hOther.symm.trans hFound))

section Outcomes

variable {db : Database} {around : Circumstance} {call : Call}

/-! ### References that are kept -/

private theorem formulation_stored {id : FormulationId} {found : Formulation}
    (hLoad : db.loadFormulation id = .ok (some found)) :
    id.text ∈ db.formulations.map FormulationRow.id := by
  obtain ⟨row, hRow, hId, -⟩ := Database.loadFormulation_eq_ok_some hLoad
  exact hId ▸ List.mem_map_of_mem hRow

private theorem lawnService_stored {id : LawnServiceId} {found : LawnService}
    (hLoad : db.loadLawnService id = .ok (some found)) :
    id.text ∈ db.lawnServices.map LawnServiceRow.id := by
  obtain ⟨row, hRow, hId, -⟩ := Database.loadLawnService_eq_ok_some hLoad
  exact hId ▸ List.mem_map_of_mem hRow

private theorem log_stored {id : CalibrationLogId} {found : CalibrationLog}
    (hLoad : db.loadLog id = .ok (some found)) : id.text ∈ db.logs.map LogRow.id := by
  obtain ⟨row, hRow, hLive, -⟩ := Database.loadLog_eq_ok_some hLoad
  exact (Database.isLiveLog_iff.1 hLive).1 ▸ List.mem_map_of_mem hRow

private theorem formulation_of_lawnService (hReady : Ready around call db) {id : LawnServiceId}
    {service : LawnService} (hLoad : db.loadLawnService id = .ok (some service)) :
    service.formulationId.text ∈ db.formulations.map FormulationRow.id := by
  obtain ⟨row, hRow, -, hRead⟩ := Database.loadLawnService_eq_ok_some hLoad
  obtain ⟨-, hColumn, -⟩ := LawnServiceRow.toLawnService_eq_ok hRead
  have hReferred := hReady.intact.formulationOf row hRow
  obtain ⟨formulation, hFormulation, hId⟩ := List.mem_map.1 hReferred
  obtain ⟨formulationId, hText⟩ := hReady.formulationTexts formulation hFormulation
  exact Store.eq_text_of_readIdentifier hColumn ⟨formulationId, hId.symm.trans hText⟩ ▸ hReferred

private theorem log_of_record (hReady : Ready around call db) {id : CalibrationRecordId}
    {record : CalibrationRecord} (hLoad : db.loadRecord id = .ok (some record)) :
    record.calibrationLogId.text ∈ db.logs.map LogRow.id := by
  obtain ⟨row, hRow, -, hRead⟩ := Database.loadRecord_eq_ok_some hLoad
  obtain ⟨-, hColumn, -⟩ := RecordRow.toRecord_eq_ok hRead
  have hReferred := hReady.intact.logOf row hRow
  obtain ⟨log, hLog, hId⟩ := List.mem_map.1 hReferred
  obtain ⟨logId, hText⟩ := hReady.intact.logTexts log hLog
  exact Store.eq_text_of_readIdentifier hColumn ⟨logId, hId.symm.trans hText⟩ ▸ hReferred

private theorem formulation_of_patched (hReady : Ready around call db) {id : LawnServiceId}
    {service : LawnService} (hLoad : db.loadLawnService id = .ok (some service))
    {patch : LawnServicePatch} (hGiven : ∀ formulation ∈ patch.formulationId,
      ∃ found, db.loadFormulation formulation = .ok (some found)) :
    (patch.apply service).formulationId.text ∈ db.formulations.map FormulationRow.id := by
  have hKept := formulation_of_lawnService hReady hLoad
  unfold LawnServicePatch.apply
  cases hPatch : patch.formulationId with
  | none => exact hKept
  | some formulation =>
      obtain ⟨found, hFound⟩ := hGiven formulation hPatch
      exact formulation_stored hFound

private theorem lawnService_of_patched (hReady : Ready around call db) {id : CalibrationLogId}
    {log : CalibrationLog} (hLoad : db.loadLog id = .ok (some log))
    {patch : LogPatch} (hGiven : ∀ service ∈ patch.lawnServiceId,
      ∃ found, db.loadLawnService service = .ok (some found)) :
    (patch.apply log).lawnServiceId.text ∈ db.lawnServices.map LawnServiceRow.id := by
  obtain ⟨row, hRow, -, hRead⟩ := Database.loadLog_eq_ok_some hLoad
  have hKept := served_of_row hReady.intact hRow hRead
  unfold LogPatch.apply
  cases hPatch : patch.lawnServiceId with
  | none => exact hKept
  | some service =>
      obtain ⟨found, hFound⟩ := hGiven service hPatch
      exact lawnService_stored hFound

private theorem log_of_patched (hReady : Ready around call db) {id : CalibrationRecordId}
    {record : CalibrationRecord} (hLoad : db.loadRecord id = .ok (some record))
    {patch : RecordPatch} (hGiven : ∀ log ∈ patch.calibrationLogId,
      ∃ found, db.loadLog log = .ok (some found)) :
    (patch.apply record).calibrationLogId.text ∈ db.logs.map LogRow.id := by
  have hKept := log_of_record hReady hLoad
  unfold RecordPatch.apply
  cases hPatch : patch.calibrationLogId with
  | none => exact hKept
  | some log =>
      obtain ⟨found, hFound⟩ := hGiven log hPatch
      exact log_stored hFound

private theorem refusesFor_createUnit (draft : UnitDraft) :
    RefusesFor (Duplicates around db (.createUnit draft)) (createUnit draft around.now) db := by
  apply refusesFor_check_bind
  · intro error hDuplicate
    cases hDuplicate with
    | unitCreated hValid hUsed => exact hValid
  intro hValid
  apply refusesFor_add_bind
  intro error
  refine Database.insertUnit_eq_error_iff.trans ⟨?_, ?_⟩
  · rintro ⟨hUsed, rfl⟩
    exact .unitCreated hValid hUsed
  · intro hDuplicate
    cases hDuplicate with
    | unitCreated hValid hUsed => exact ⟨hUsed, rfl⟩

private theorem refusesFor_updateUnit (hLegible : Legible db) (symbol : String)
    (patch : UnitPatch) :
    RefusesFor (Duplicates around db (.updateUnit symbol patch))
      (updateUnit symbol patch around.now) db := by
  refine refusesFor_load_bind (hLegible.loadUnit symbol) nofun fun unit _ => ?_
  refine refusesFor_check_bind nofun fun hValid => ?_
  refine refusesFor_alter_bind (fun error => iff_of_false Database.updateUnit_ne_error nofun) ?_
  exact fun hNone _ _ => refusesFor_pure hNone

private theorem refusesFor_createFormulation {draft : FormulationDraft}
    (hReady : Ready around (.createFormulation draft) db) :
    RefusesFor (Duplicates around db (.createFormulation draft))
      (createFormulation draft ⟨around.freshBits⟩ around.now) db := by
  apply refusesFor_check_bind
  · intro error hDuplicate
    cases hDuplicate with
    | formulationCreated hValid hUsed => exact hValid
  intro hValid
  have hNew : (draft.make ⟨around.freshBits⟩ around.now).id.text ∉
      db.formulations.map FormulationRow.id := hReady.fresh .formulation rfl
  apply refusesFor_add_bind
  intro error
  refine (Database.insertFormulation_eq_error_iff hNew).trans ⟨?_, ?_⟩
  · rintro ⟨hUsed, rfl⟩
    exact .formulationCreated hValid hUsed
  · intro hDuplicate
    cases hDuplicate with
    | formulationCreated hValid hUsed => exact ⟨hUsed, rfl⟩

private theorem refusesFor_updateFormulation (hLegible : Legible db) (id : FormulationId)
    (patch : FormulationPatch) :
    RefusesFor (Duplicates around db (.updateFormulation id patch))
      (updateFormulation id patch around.now) db := by
  apply refusesFor_load_bind (hLegible.loadFormulation id)
  · intro error hDuplicate
    cases hDuplicate with
    | formulationUpdated hLoad hValid hUsed => exact ⟨_, hLoad⟩
  intro formulation hLoad
  have hId := Database.loadFormulation_id hLoad
  have hHeld := formulation_stored hLoad
  apply refusesFor_check_bind
  · intro error hDuplicate
    cases hDuplicate with
    | formulationUpdated hOther hValid hUsed =>
        obtain rfl := loaded_unique hLoad hOther
        exact hValid
  intro hValid
  refine refusesFor_alter_bind ?_ fun hNone _ _ => refusesFor_pure hNone
  intro error
  subst hId
  refine Iff.trans (Database.updateFormulation_eq_error_iff ?_) ⟨?_, ?_⟩
  · exact hHeld
  · rintro ⟨hUsed, rfl⟩
    exact .formulationUpdated hLoad hValid hUsed
  · intro hDuplicate
    cases hDuplicate with
    | formulationUpdated hOther hValid hUsed =>
        obtain rfl := loaded_unique hLoad hOther
        exact ⟨hUsed, rfl⟩

private theorem target_isNaN {draft : LawnServiceDraft} (hValid : draft.validate = .ok ()) :
    draft.targetCalibrationValue.isNaN = false :=
  Store.isNaN_of_isFinite (LawnServiceDraft.validate_eq_ok_iff.1 hValid).2.1

private theorem refusesFor_createLawnService {draft : LawnServiceDraft}
    (hReady : Ready around (.createLawnService draft) db) :
    RefusesFor (Duplicates around db (.createLawnService draft))
      (createLawnService draft ⟨around.freshBits⟩ around.now) db := by
  apply refusesFor_check_bind
  · intro error hDuplicate
    cases hDuplicate with
    | lawnServiceCreated hValid hFormulation hUsed => exact hValid
  intro hValid
  apply refusesFor_load_bind (hReady.legible.loadFormulation draft.formulationId)
  · intro error hDuplicate
    cases hDuplicate with
    | lawnServiceCreated hValid hFormulation hUsed => exact hFormulation
  intro formulation hLoad
  have hNew : (draft.make ⟨around.freshBits⟩ around.now).id.text ∉
      db.lawnServices.map LawnServiceRow.id := hReady.fresh .lawnService rfl
  apply refusesFor_add_bind
  intro error
  refine Iff.trans (Database.insertLawnService_eq_error_iff ?_ hNew ?_) ⟨?_, ?_⟩
  · exact target_isNaN hValid
  · exact formulation_stored hLoad
  · rintro ⟨hUsed, rfl⟩
    exact .lawnServiceCreated hValid ⟨formulation, hLoad⟩ hUsed
  · intro hDuplicate
    cases hDuplicate with
    | lawnServiceCreated hValid hFormulation hUsed => exact ⟨hUsed, rfl⟩

/-- A patched lawn service is checked and written. -/
private theorem refusesFor_writeLawnService {id : LawnServiceId} {patch : LawnServicePatch}
    (hReady : Ready around (.updateLawnService id patch) db) {service : LawnService}
    (hLoad : db.loadLawnService id = .ok (some service))
    (hFormulation : ∀ formulation ∈ patch.formulationId,
      ∃ found, db.loadFormulation formulation = .ok (some found)) :
    RefusesFor (Duplicates around db (.updateLawnService id patch)) (do
      check (patch.apply service).validate
      alter .lawnService id.text
        (Storage.updateLawnService { patch.apply service with updatedAt := around.now })
      return { patch.apply service with updatedAt := around.now }) db := by
  apply refusesFor_check_bind
  · intro error hDuplicate
    cases hDuplicate with
    | lawnServiceUpdated hOther hFormulation hValid hUsed =>
        obtain rfl := loaded_unique hLoad hOther
        exact hValid
  intro hValid
  refine refusesFor_alter_bind ?_ fun hNone _ _ => refusesFor_pure hNone
  intro error
  obtain rfl := Database.loadLawnService_id hLoad
  refine Iff.trans (Database.updateLawnService_eq_error_iff ?_ ?_ ?_) ⟨?_, ?_⟩
  · exact lawnService_stored hLoad
  · exact target_isNaN hValid
  · exact formulation_of_patched hReady hLoad hFormulation
  · rintro ⟨hUsed, rfl⟩
    exact .lawnServiceUpdated hLoad hFormulation hValid hUsed
  · intro hDuplicate
    cases hDuplicate with
    | lawnServiceUpdated hOther hFormulation hValid hUsed =>
        obtain rfl := loaded_unique hLoad hOther
        exact ⟨hUsed, rfl⟩

private theorem refusesFor_updateLawnService {id : LawnServiceId} {patch : LawnServicePatch}
    (hReady : Ready around (.updateLawnService id patch) db) :
    RefusesFor (Duplicates around db (.updateLawnService id patch))
      (updateLawnService id patch around.now) db := by
  apply refusesFor_load_bind (Database.exists_loadLawnService hReady.legible.lawnServices id)
  · intro error hDuplicate
    cases hDuplicate with
    | lawnServiceUpdated hLoad hFormulation hValid hUsed => exact ⟨_, hLoad⟩
  intro service hLoad
  have hWrite := refusesFor_writeLawnService hReady hLoad
  cases hPatch : patch.formulationId with
  | none =>
      apply hWrite
      rw [hPatch]
      exact nofun
  | some formulation =>
      apply refusesFor_load_bind (hReady.legible.loadFormulation formulation)
      · intro error hDuplicate
        cases hDuplicate with
        | lawnServiceUpdated hLoad hFormulation hValid hUsed => exact hFormulation _ hPatch
      intro found hFound
      apply hWrite
      rw [hPatch]
      intro other hOther
      cases hOther
      exact ⟨found, hFound⟩

private theorem refusesFor_createLog {draft : LogDraft} {user : UserId}
    (hReady : Ready around (.createLog draft user) db) :
    RefusesFor (Duplicates around db (.createLog draft user))
      (createLog draft user ⟨around.freshBits⟩ around.now) db := by
  have hNew : (draft.make ⟨around.freshBits⟩ user around.now).id.text ∉
      db.logs.map LogRow.id := hReady.fresh .calibrationLog rfl
  refine refusesFor_load_bind
    (Database.exists_loadLawnService hReady.legible.lawnServices draft.lawnServiceId) nofun ?_
  intro service hLoad
  apply refusesFor_add_bind
  intro error
  refine iff_of_false (Database.insertLog_ne_error hNew ?_) nofun
  exact lawnService_stored hLoad

private theorem refusesFor_readLog (hLegible : Legible db) (budget : Budget)
    (id : CalibrationLogId) :
    RefusesFor (Duplicates around db (.readLog id)) (readLog budget id) db := by
  refine refusesFor_load_bind (hLegible.loadLog id) nofun fun log _ => ?_
  refine refusesFor_complete_bind hLegible.records hLegible.lawnServices fun completed => ?_
  exact refusesFor_pure nofun

private theorem refusesFor_readLogs (hLegible : Legible db) (budget : Budget) (filter : LogFilter) :
    RefusesFor (Duplicates around db (.readLogs filter)) (readLogs budget filter) db :=
  refusesFor_query_bind (hLegible.listLogs filter) fun _ _ => refusesFor_completeAll hLegible nofun

/-- The tables that are read after the change are those from before it. -/
private theorem refusesFor_updateLog {id : CalibrationLogId} {patch : LogPatch}
    (hReady : Ready around (.updateLog id patch) db) (budget : Budget) :
    RefusesFor (Duplicates around db (.updateLog id patch))
      (updateLog budget id patch around.now) db := by
  refine refusesFor_load_bind (hReady.legible.loadLog id) nofun ?_
  intro log hLoad
  have hRest : (∀ service ∈ patch.lawnServiceId,
      ∃ found, db.loadLawnService service = .ok (some found)) →
      RefusesFor (Duplicates around db (.updateLog id patch)) (do
        alter .calibrationLog id.text
          (Storage.updateLog { patch.apply log with updatedAt := around.now })
        let found ← complete budget { patch.apply log with updatedAt := around.now } []
        return found.1) db := by
    intro hService
    apply refusesFor_alter_bind
    · intro error
      refine iff_of_false (Database.updateLog_ne_error ?_) nofun
      exact lawnService_of_patched hReady hLoad hService
    · intro hNone after hWrite
      obtain ⟨-, rfl⟩ := (Database.updateLog_eq_ok hWrite).found
      refine refusesFor_complete_bind hReady.legible.records hReady.legible.lawnServices ?_
      intro completed
      exact refusesFor_pure hNone
  cases hPatch : patch.lawnServiceId with
  | none =>
      apply hRest
      rw [hPatch]
      exact nofun
  | some service =>
      refine refusesFor_load_bind
        (Database.exists_loadLawnService hReady.legible.lawnServices service) nofun ?_
      intro found hFound
      apply hRest
      rw [hPatch]
      intro other hOther
      cases hOther
      exact ⟨found, hFound⟩

private theorem refusesFor_deleteLog (id : CalibrationLogId) :
    RefusesFor (Duplicates around db (.deleteLog id)) (deleteLog id around.now) db :=
  refusesFor_alter fun _ => iff_of_false nofun nofun

private theorem value_isNaN {unit : String} {value : Float}
    (hValid : validateMeasurement unit value = .ok ()) : value.isNaN = false :=
  Store.isNaN_of_isFinite (validateMeasurement_eq_ok_iff.1 hValid).2

private theorem refusesFor_createRecord {log : CalibrationLogId} {draft : RecordDraft}
    (hReady : Ready around (.createRecord log draft) db) :
    RefusesFor (Duplicates around db (.createRecord log draft))
      (createRecord log draft ⟨around.freshBits⟩ around.now) db := by
  have hNew : (draft.make ⟨around.freshBits⟩ log around.now).id.text ∉
      db.records.map RecordRow.id := hReady.fresh .calibrationRecord rfl
  refine refusesFor_check_bind nofun fun hValid => ?_
  refine refusesFor_load_bind (hReady.legible.loadLog log) nofun ?_
  intro found hLoad
  apply refusesFor_add_bind
  intro error
  refine iff_of_false (Database.insertRecord_ne_error ?_ hNew ?_) nofun
  · exact value_isNaN hValid
  · exact log_stored hLoad

private theorem refusesFor_updateRecord {id : CalibrationRecordId} {patch : RecordPatch}
    (hReady : Ready around (.updateRecord id patch) db) :
    RefusesFor (Duplicates around db (.updateRecord id patch))
      (updateRecord id patch around.now) db := by
  refine refusesFor_load_bind (hReady.legible.loadRecord id) nofun ?_
  intro record hLoad
  have hRest : (∀ log ∈ patch.calibrationLogId, ∃ found, db.loadLog log = .ok (some found)) →
      RefusesFor (Duplicates around db (.updateRecord id patch)) (do
        check (patch.apply record).validate
        alter .calibrationRecord id.text
          (Storage.updateRecord { patch.apply record with updatedAt := around.now })
        return { patch.apply record with updatedAt := around.now }) db := by
    intro hLog
    refine refusesFor_check_bind nofun fun hValid => ?_
    refine refusesFor_alter_bind ?_ fun hNone _ _ => refusesFor_pure hNone
    intro error
    refine iff_of_false (Database.updateRecord_ne_error ?_ ?_) nofun
    · exact value_isNaN hValid
    · exact log_of_patched hReady hLoad hLog
  cases hPatch : patch.calibrationLogId with
  | none =>
      apply hRest
      rw [hPatch]
      exact nofun
  | some log =>
      refine refusesFor_load_bind (hReady.legible.loadLog log) nofun ?_
      intro found hFound
      apply hRest
      rw [hPatch]
      intro other hOther
      cases hOther
      exact ⟨found, hFound⟩

private theorem refusesFor_deleteRecord (id : CalibrationRecordId) :
    RefusesFor (Duplicates around db (.deleteRecord id)) (deleteRecord id) db :=
  refusesFor_alter fun _ => iff_of_false nofun nofun

/-! ### Every call -/

theorem refusesFor_call (hReady : Ready around call db) (budget : Budget) :
    RefusesFor (Duplicates around db call) (call.action budget around) db := by
  have hLegible := hReady.legible
  cases call with
  | createUnit draft => exact (refusesFor_createUnit draft).map
  | readUnits => exact (refusesFor_query hLegible.listUnits nofun).map
  | updateUnit symbol patch => exact (refusesFor_updateUnit hLegible symbol patch).map
  | createFormulation draft => exact (refusesFor_createFormulation hReady).map
  | readFormulations => exact (refusesFor_query hLegible.listFormulations nofun).map
  | updateFormulation id patch => exact (refusesFor_updateFormulation hLegible id patch).map
  | createLawnService draft => exact (refusesFor_createLawnService hReady).map
  | readLawnServices => exact (refusesFor_query hLegible.listLawnServices nofun).map
  | readLawnService id =>
      exact (refusesFor_load (Database.exists_loadLawnService hLegible.lawnServices id) nofun).map
  | updateLawnService id patch => exact (refusesFor_updateLawnService hReady).map
  | createLog draft user => exact (refusesFor_createLog hReady).map
  | readLog id => exact (refusesFor_readLog hLegible budget id).map
  | readLogs filter => exact (refusesFor_readLogs hLegible budget filter).map
  | updateLog id patch => exact (refusesFor_updateLog hReady budget).map
  | deleteLog id => exact (refusesFor_deleteLog id).map
  | createRecord log draft => exact (refusesFor_createRecord hReady).map
  | readRecords filter => exact (refusesFor_query (hLegible.listRecords filter) nofun).map
  | updateRecord id patch => exact (refusesFor_updateRecord hReady).map
  | deleteRecord id => exact (refusesFor_deleteRecord id).map

end Outcomes

theorem Duplicates.conflict {around : Circumstance} {db : Database} {call : Call} {error : StoreError}
    (hDuplicate : Duplicates around db call error) :
    ∃ entity column, error = .conflict entity (.unique column) := by
  cases hDuplicate with
  | unitCreated => exact ⟨_, _, rfl⟩
  | formulationCreated => exact ⟨_, _, rfl⟩
  | formulationUpdated => exact ⟨_, _, rfl⟩
  | lawnServiceCreated => exact ⟨_, _, rfl⟩
  | lawnServiceUpdated => exact ⟨_, _, rfl⟩

/-- After a run under a clock that shows years of four digits, a call that is given a new identifier
ends with an error of the storage just when it asks for a symbol, a name or a code of another row
and everything else about it is right.  That error is a broken uniqueness and never another one. -/
theorem call_refused_iff_duplicates (run : List Occasion) (occasion : Occasion)
    (hClock : ClockInRange run) (hFresh : FreshIds (run ++ [occasion])) (error : StoreError) :
    ((occasion.perform (performAll run Database.empty)).1 = .error (.store error) ↔
        Duplicates occasion.around (performAll run Database.empty) occasion.call error) ∧
      ((occasion.perform (performAll run Database.empty)).1 = .error (.store error) →
        ∃ entity column, error = .conflict entity (.unique column)) := by
  have hCall : (occasion.perform (performAll run Database.empty)).1 = .error (.store error) ↔
      Duplicates occasion.around (performAll run Database.empty) occasion.call error :=
    refusesFor_call (ready_performAll hClock hFresh) occasion.budget error
  exact ⟨hCall, fun hRefused => (hCall.1 hRefused).conflict⟩

/-- Of two formulations the second is to get the name of the first. -/
theorem renamed_formulation_refused :
    let morning := Calendar.Instant.startOfDay ⟨2025, 3, 1, by decide⟩
    let run : List Occasion := [
      ⟨.createFormulation ⟨"Granular"⟩, ⟨100⟩, ⟨morning, 1⟩⟩,
      ⟨.createFormulation ⟨"Liquid"⟩, ⟨100⟩, ⟨morning, 2⟩⟩]
    let occasion : Occasion := ⟨.updateFormulation ⟨2⟩ ⟨some "Granular"⟩, ⟨100⟩, ⟨morning, 3⟩⟩
    ClockInRange run ∧ FreshIds (run ++ [occasion]) ∧
      (occasion.perform (performAll run Database.empty)).1 =
        .error (.store (.conflict .formulation (.unique "formulations.name"))) := by
  intro morning run occasion
  have hClock : ClockInRange run := by
    unfold ClockInRange
    decide
  have hFresh : FreshIds (run ++ [occasion]) := by
    intro kind
    cases kind <;> decide
  have hLoad : (performAll run Database.empty).loadFormulation ⟨2⟩ =
      .ok (some ⟨⟨2⟩, "Liquid", morning, morning⟩) := by decide +kernel
  have hUsed : ∃ row ∈ (performAll run Database.empty).formulations,
      row.name = "Granular" ∧ row.id ≠ Identifier.text (⟨2⟩ : FormulationId) := by decide +kernel
  refine ⟨hClock, hFresh, (call_refused_iff_duplicates run occasion hClock hFresh _).1.2 ?_⟩
  exact .formulationUpdated hLoad (by decide) hUsed
end LawnCalibration.Service
