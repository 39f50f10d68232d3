import LawnCalibration.Proofs.Calibration.Engine
import LawnCalibration.Proofs.Service.Agreement
import LawnCalibration.Service.Call
import LawnCalibration.Store.Database

/-
The same call on other formulas.

Beside a database stands one in which the lawn services have other formulas.  A
call that completes a log runs alike on both, with any budget on either side:
only the values that the formulas give are told apart.
-/

set_option autoImplicit false

namespace LawnCalibration

open Store (Database LawnServiceRow)

def Store.LawnServiceRow.reformulated (formulas : LawnServiceRow → String × String)
    (row : LawnServiceRow) : LawnServiceRow :=
  { row with
    calibrationFunction := (formulas row).1
    differentialCalibrationFunction := (formulas row).2 }

def Store.Database.reformulated (formulas : LawnServiceRow → String × String) (db : Database) :
    Database :=
  { db with lawnServices := db.lawnServices.map (LawnServiceRow.reformulated formulas) }

namespace Service

open Formula (Budget)
open Service.Action

variable {db other : Database} {formulas : LawnServiceRow → String × String}

/-- The second database is the first one with other formulas. -/
def Reformulates (formulas : LawnServiceRow → String × String) (db other : Database) : Prop :=
  other = db.reformulated formulas

/-- Whether the row of a lawn service can be read does not depend on its formulas. -/
private theorem agree_toLawnService (row : LawnServiceRow) :
    Agree (fun _ _ => True) row.toLawnService (row.reformulated formulas).toLawnService := by
  unfold LawnServiceRow.toLawnService
  refine (Agree.refl Eq.refl _).bind fun target target' _ => ?_
  refine (Agree.refl Eq.refl _).bind fun id id' _ => ?_
  refine (Agree.refl Eq.refl _).bind fun formulationId formulationId' _ => ?_
  refine (Agree.refl Eq.refl _).bind fun createdAt createdAt' _ => ?_
  exact (Agree.refl Eq.refl _).bind fun updatedAt updatedAt' _ => .ok trivial

private theorem agree_loadLawnService (hOther : Reformulates formulas db other)
    (id : LawnServiceId) :
    Agree (Option.Rel fun _ _ => True) (db.loadLawnService id) (other.loadLawnService id) := by
  have hFind : Store.findRow LawnServiceRow.id id.text other.lawnServices =
      (Store.findRow LawnServiceRow.id id.text db.lawnServices).map
        (LawnServiceRow.reformulated formulas) := by
    rw [hOther]
    exact List.find?_map
  unfold Database.loadLawnService
  rw [hFind]
  cases Store.findRow LawnServiceRow.id id.text db.lawnServices with
  | none => exact .ok .none
  | some row => exact (agree_toLawnService row).map fun _ _ hSame => .some hSame

private theorem agree_loadLog (hOther : Reformulates formulas db other) (id : CalibrationLogId) :
    Agree (Option.Rel Eq) (db.loadLog id) (other.loadLog id) := by
  rw [hOther]
  refine Agree.refl (fun found => ?_) (db.loadLog id)
  cases found with
  | none => exact .none
  | some log => exact .some rfl

private theorem agree_loadRecords (hOther : Reformulates formulas db other)
    (log : CalibrationLogId) :
    Agree Eq (db.loadRecords log) (other.loadRecords log) := by
  rw [hOther]
  exact Agree.refl Eq.refl (db.loadRecords log)

/-- A log is written if its lawn service is there, whatever the formulas of that are. -/
private theorem agree_updateLog (hOther : Reformulates formulas db other) (log : CalibrationLog) :
    Agree
      (fun written written' => written.1 = written'.1 ∧ Reformulates formulas written.2 written'.2)
      (db.updateLog log) (other.updateLog log) := by
  have hDemand : Database.demandLawnService log other = Database.demandLawnService log db := by
    rw [hOther]
    exact congrArg (Store.demand .calibrationLog .foreignKey) List.any_map
  have hLogs : other.logs = db.logs := by
    rw [hOther]
    rfl
  unfold Database.updateLog
  rw [hDemand, hLogs]
  split
  · refine (Agree.refl Eq.refl _).bind fun _ _ _ => .ok ⟨rfl, ?_⟩
    rw [hOther]
    rfl
  · exact .ok ⟨rfl, hOther⟩

/-- The calls that hand out one log with its calibrations. -/
def Call.Completes (id : CalibrationLogId) : Call → Prop
  | .readLog other => other = id
  | .updateLog other _ => other = id
  | _ => False

/-- The same log is handed out, besides what the formulas give. -/
inductive SameUncalibrated : Answer → Answer → Prop
  | log {first second : CalibrationLog} (hSame : first.uncalibrated = second.uncalibrated) :
      SameUncalibrated (.log first) (.log second)

section Calls

variable {budget budget' : Budget}

private theorem simulates_lookUp (hOther : Reformulates formulas db other) (id : LawnServiceId) :
    Simulates (Reformulates formulas)
      (fun found found' => Option.Rel (fun _ _ => True) found.1 found'.1)
      (lookUp id []) (lookUp id []) db other := by
  refine (simulates_query hOther (agree_loadLawnService hOther id)).bind ?_
  intro service service' after after' hService hAfter
  exact simulates_pure hAfter hService

private theorem simulates_complete (hOther : Reformulates formulas db other)
    (log : CalibrationLog) :
    Simulates (Reformulates formulas)
      (fun first second => first.1.uncalibrated = second.1.uncalibrated)
      (complete budget log []) (complete budget' log []) db other := by
  refine (simulates_query hOther (agree_loadRecords hOther log.id)).bind ?_
  rintro records _ after after' rfl hAfter
  refine (simulates_lookUp hAfter log.lawnServiceId).bind ?_
  rintro ⟨service, known⟩ ⟨service', known'⟩ last last' hService hLast
  cases hService with
  | some _ =>
      refine simulates_pure hLast ?_
      rw [LawnService.uncalibrated_calibrate, LawnService.uncalibrated_calibrate]
  | none => exact simulates_pure hLast rfl

theorem simulates_readLog (hOther : Reformulates formulas db other) (id : CalibrationLogId) :
    Simulates (Reformulates formulas) (fun first second => first.uncalibrated = second.uncalibrated)
      (readLog budget id) (readLog budget' id) db other := by
  refine (simulates_load hOther (agree_loadLog hOther id)).bind ?_
  rintro log _ after after' rfl hAfter
  refine (simulates_complete hAfter log).bind ?_
  intro completed completed' last last' hSame hLast
  exact simulates_pure hLast hSame

theorem simulates_updateLog (hOther : Reformulates formulas db other) (id : CalibrationLogId)
    (patch : LogPatch) (now : Calendar.Instant) :
    Simulates (Reformulates formulas) (fun first second => first.uncalibrated = second.uncalibrated)
      (updateLog budget id patch now) (updateLog budget' id patch now) db other := by
  refine (simulates_load hOther (agree_loadLog hOther id)).bind ?_
  rintro log _ after after' rfl hAfter
  have hRest : ∀ {db other : Database}, Reformulates formulas db other →
      Simulates (Reformulates formulas)
        (fun first second => first.uncalibrated = second.uncalibrated)
        (do
          alter .calibrationLog id.text
            (Storage.updateLog { patch.apply log with updatedAt := now })
          let found ← complete budget { patch.apply log with updatedAt := now } []
          return found.1)
        (do
          alter .calibrationLog id.text
            (Storage.updateLog { patch.apply log with updatedAt := now })
          let found ← complete budget' { patch.apply log with updatedAt := now } []
          return found.1) db other := by
    intro db other hOther
    refine (simulates_alter hOther (agree_updateLog hOther _)).bind ?_
    intro _ _ after after' _ hAfter
    refine (simulates_complete hAfter _).bind ?_
    intro completed completed' last last' hSame hLast
    exact simulates_pure hLast hSame
  cases patch.lawnServiceId with
  | none => exact hRest hAfter
  | some service =>
      refine (simulates_load hAfter (agree_loadLawnService hAfter service)).bind ?_
      intro _ _ last last' _ hLast
      exact hRest hLast

/-- A call that completes a log hands out the same log, or fails with the same error, and writes
the same, whatever the formulas and the budgets are. -/
theorem perform_reformulated {call : Call} {id : CalibrationLogId} (hCall : call.Completes id)
    (around : Circumstance) :
    Agree SameUncalibrated (call.perform budget around db).1
        (call.perform budget' around (db.reformulated formulas)).1 ∧
      (call.perform budget' around (db.reformulated formulas)).2 =
        (call.perform budget around db).2.reformulated formulas := by
  have hSame : Simulates (Reformulates formulas) SameUncalibrated (call.action budget around)
      (call.action budget' around) db (db.reformulated formulas) := by
    cases call with
    | readLog other =>
        exact (simulates_readLog rfl other).map fun _ _ hSame => .log hSame
    | updateLog other patch =>
        exact (simulates_updateLog rfl other patch around.now).map fun _ _ hSame => .log hSame
    | _ => cases hCall
  exact hSame

end Calls
end Service
end LawnCalibration
