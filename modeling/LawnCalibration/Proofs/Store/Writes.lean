import LawnCalibration.Proofs.Store.Table
import LawnCalibration.Store.Database

/-
What a write that succeeds has made sure of, and what it leaves.

A change that finds no row leaves the database as it is.
-/

set_option autoImplicit false

namespace LawnCalibration.Store.Database

open Calendar (Instant)

variable {db after : Database}

/-- A change has found its row and means something, or it has found none and leaves everything. -/
def Altered (db after : Database) (found : Bool) (meaning : Prop) : Prop :=
  (found = false ∧ after = db) ∨ (found = true ∧ meaning)

theorem Altered.lost {meaning : Prop} (hAltered : Altered db after false meaning) : after = db := by
  rcases hAltered with ⟨-, hSame⟩ | ⟨hFound, -⟩
  · exact hSame
  · cases hFound

theorem Altered.found {meaning : Prop} (hAltered : Altered db after true meaning) : meaning := by
  rcases hAltered with ⟨hLost, -⟩ | ⟨-, hMeaning⟩
  · cases hLost
  · exact hMeaning

private theorem altered_lost {found : Bool} {meaning : Prop}
    (hWrite : (Except.ok (false, db) : Except StoreError (Bool × Database)) = .ok (found, after)) :
    Altered db after found meaning := by
  obtain ⟨rfl, rfl⟩ := Prod.mk.inj (Except.ok.inj hWrite)
  exact .inl ⟨rfl, rfl⟩

theorem insertUnit_eq_ok {unit : MeasureUnit} (hWrite : db.insertUnit unit = .ok after) :
    unit.symbol ∉ db.units.map UnitRow.symbol ∧
      after = { db with
        units := db.units ++ [.ofUnit (nextNumber UnitRow.number db.units) unit] } := by
  obtain ⟨hSymbol, hAfter⟩ := demand_bind_eq_ok_iff.1 hWrite
  rw [Bool.not_eq_true', holds_eq_false_iff] at hSymbol
  exact ⟨hSymbol, (Except.ok.inj hAfter).symm⟩

theorem updateUnit_eq_ok {unit : MeasureUnit} {found : Bool}
    (hWrite : db.updateUnit unit = .ok (found, after)) :
    Altered db after found (after = { db with
      units := changeRows (fun row => row.symbol == unit.symbol)
        (fun row => { UnitRow.ofUnit row.number unit with createdAt := row.createdAt })
        db.units }) := by
  unfold updateUnit at hWrite
  split at hWrite
  · obtain ⟨rfl, rfl⟩ := Prod.mk.inj (Except.ok.inj hWrite)
    exact .inr ⟨rfl, rfl⟩
  · exact altered_lost hWrite

theorem insertFormulation_eq_ok {formulation : Formulation}
    (hWrite : db.insertFormulation formulation = .ok after) :
    formulation.name ∉ db.formulations.map FormulationRow.name ∧
      formulation.id.text ∉ db.formulations.map FormulationRow.id ∧
      after = { db with
        formulations := db.formulations ++
          [.ofFormulation (nextNumber FormulationRow.number db.formulations) formulation] } := by
  obtain ⟨hName, hKey⟩ := demand_bind_eq_ok_iff.1 hWrite
  obtain ⟨hId, hAfter⟩ := demand_bind_eq_ok_iff.1 hKey
  rw [Bool.not_eq_true', holds_eq_false_iff] at hName hId
  exact ⟨hName, hId, (Except.ok.inj hAfter).symm⟩

theorem updateFormulation_eq_ok {formulation : Formulation} {found : Bool}
    (hWrite : db.updateFormulation formulation = .ok (found, after)) :
    Altered db after found
      ((∀ row ∈ db.formulations, row.name = formulation.name → row.id = formulation.id.text) ∧
        after = { db with
          formulations := changeRows (fun row => row.id == formulation.id.text)
            (fun row => { FormulationRow.ofFormulation row.number formulation with
              createdAt := row.createdAt }) db.formulations }) := by
  unfold updateFormulation at hWrite
  split at hWrite
  · obtain ⟨hName, hChanged⟩ := demand_bind_eq_ok_iff.1 hWrite
    obtain ⟨rfl, rfl⟩ := Prod.mk.inj (Except.ok.inj hChanged)
    exact .inr ⟨rfl, by simpa using hName, rfl⟩
  · exact altered_lost hWrite

theorem insertLawnService_eq_ok {service : LawnService}
    (hWrite : db.insertLawnService service = .ok after) :
    storedReal service.targetCalibrationValue ≠ .null ∧
      service.code ∉ db.lawnServices.map LawnServiceRow.code ∧
      service.id.text ∉ db.lawnServices.map LawnServiceRow.id ∧
      service.formulationId.text ∈ db.formulations.map FormulationRow.id ∧
      after = { db with
        lawnServices := db.lawnServices ++
          [.ofLawnService (nextNumber LawnServiceRow.number db.lawnServices) service] } := by
  obtain ⟨hTarget, hUnique⟩ := demand_bind_eq_ok_iff.1 hWrite
  obtain ⟨hCode, hKey⟩ := demand_bind_eq_ok_iff.1 hUnique
  obtain ⟨hId, hReferred⟩ := demand_bind_eq_ok_iff.1 hKey
  obtain ⟨hFormulation, hAfter⟩ := demand_bind_eq_ok_iff.1 hReferred
  rw [Bool.not_eq_true', holds_eq_false_iff] at hCode hId
  exact ⟨bne_iff_ne.1 hTarget, hCode, hId, holds_eq_true_iff.1 hFormulation,
    (Except.ok.inj hAfter).symm⟩

theorem updateLawnService_eq_ok {service : LawnService} {found : Bool}
    (hWrite : db.updateLawnService service = .ok (found, after)) :
    Altered db after found
      (storedReal service.targetCalibrationValue ≠ .null ∧
        (∀ row ∈ db.lawnServices, row.code = service.code → row.id = service.id.text) ∧
        service.formulationId.text ∈ db.formulations.map FormulationRow.id ∧
        after = { db with
          lawnServices := changeRows (fun row => row.id == service.id.text)
            (fun row => { LawnServiceRow.ofLawnService row.number service with
              createdAt := row.createdAt }) db.lawnServices }) := by
  unfold updateLawnService at hWrite
  split at hWrite
  · obtain ⟨hTarget, hUnique⟩ := demand_bind_eq_ok_iff.1 hWrite
    obtain ⟨hCode, hReferred⟩ := demand_bind_eq_ok_iff.1 hUnique
    obtain ⟨hFormulation, hChanged⟩ := demand_bind_eq_ok_iff.1 hReferred
    obtain ⟨rfl, rfl⟩ := Prod.mk.inj (Except.ok.inj hChanged)
    exact .inr ⟨rfl, bne_iff_ne.1 hTarget, by simpa using hCode, holds_eq_true_iff.1 hFormulation, rfl⟩
  · exact altered_lost hWrite

theorem isLiveLog_iff {id : String} {row : LogRow} :
    isLiveLog id row = true ↔ row.id = id ∧ row.deletedAt = none := by
  simp [isLiveLog, LogRow.isLive]

theorem insertLog_eq_ok {log : CalibrationLog} (hWrite : db.insertLog log = .ok after) :
    log.id.text ∉ db.logs.map LogRow.id ∧
      log.lawnServiceId.text ∈ db.lawnServices.map LawnServiceRow.id ∧
      after = { db with
        logs := db.logs ++ [.ofLog (nextNumber LogRow.number db.logs) log] } := by
  obtain ⟨hId, hReferred⟩ := demand_bind_eq_ok_iff.1 hWrite
  obtain ⟨hService, hAfter⟩ := demand_bind_eq_ok_iff.1 hReferred
  rw [Bool.not_eq_true', holds_eq_false_iff] at hId
  exact ⟨hId, holds_eq_true_iff.1 hService, (Except.ok.inj hAfter).symm⟩

theorem updateLog_eq_ok {log : CalibrationLog} {found : Bool}
    (hWrite : db.updateLog log = .ok (found, after)) :
    Altered db after found
      (log.lawnServiceId.text ∈ db.lawnServices.map LawnServiceRow.id ∧
        after = { db with
          logs := changeRows (isLiveLog log.id.text)
            (fun row => { row with
              userId := log.userId.text
              lawnServiceId := log.lawnServiceId.text
              updatedAt := instantText log.updatedAt }) db.logs }) := by
  unfold updateLog at hWrite
  split at hWrite
  · obtain ⟨hService, hChanged⟩ := demand_bind_eq_ok_iff.1 hWrite
    obtain ⟨rfl, rfl⟩ := Prod.mk.inj (Except.ok.inj hChanged)
    exact .inr ⟨rfl, holds_eq_true_iff.1 hService, rfl⟩
  · exact altered_lost hWrite

theorem deleteLog_eq_ok {id : CalibrationLogId} {moment : Instant} {found : Bool}
    (hWrite : db.deleteLog id moment = .ok (found, after)) :
    Altered db after found
      ((∃ row ∈ db.logs, isLiveLog id.text row = true) ∧
        after = { db with
          logs := changeRows (isLiveLog id.text)
            (fun row => { row with
              updatedAt := instantText moment
              deletedAt := some (instantText moment) }) db.logs }) := by
  obtain ⟨rfl, rfl⟩ := Prod.mk.inj (Except.ok.inj hWrite)
  cases hLive : db.logs.any (isLiveLog id.text) with
  | false =>
      rw [changeRows_eq_self (by simpa using hLive)]
      exact .inl ⟨rfl, rfl⟩
  | true => exact .inr ⟨rfl, List.any_eq_true.1 hLive, rfl⟩

theorem insertRecord_eq_ok {record : CalibrationRecord}
    (hWrite : db.insertRecord record = .ok after) :
    storedReal record.measurementValue ≠ .null ∧
      record.id.text ∉ db.records.map RecordRow.id ∧
      record.calibrationLogId.text ∈ db.logs.map LogRow.id ∧
      after = { db with
        records := db.records ++
          [.ofRecord (nextNumber RecordRow.number db.records) record] } := by
  obtain ⟨hValue, hKey⟩ := demand_bind_eq_ok_iff.1 hWrite
  obtain ⟨hId, hReferred⟩ := demand_bind_eq_ok_iff.1 hKey
  obtain ⟨hLog, hAfter⟩ := demand_bind_eq_ok_iff.1 hReferred
  rw [Bool.not_eq_true', holds_eq_false_iff] at hId
  exact ⟨bne_iff_ne.1 hValue, hId, holds_eq_true_iff.1 hLog, (Except.ok.inj hAfter).symm⟩

theorem updateRecord_eq_ok {record : CalibrationRecord} {found : Bool}
    (hWrite : db.updateRecord record = .ok (found, after)) :
    Altered db after found
      (storedReal record.measurementValue ≠ .null ∧
        record.calibrationLogId.text ∈ db.logs.map LogRow.id ∧
        after = { db with
          records := changeRows (fun row => row.id == record.id.text)
            (fun row => { RecordRow.ofRecord row.number record with
              createdAt := row.createdAt }) db.records }) := by
  unfold updateRecord at hWrite
  split at hWrite
  · obtain ⟨hValue, hReferred⟩ := demand_bind_eq_ok_iff.1 hWrite
    obtain ⟨hLog, hChanged⟩ := demand_bind_eq_ok_iff.1 hReferred
    obtain ⟨rfl, rfl⟩ := Prod.mk.inj (Except.ok.inj hChanged)
    exact .inr ⟨rfl, bne_iff_ne.1 hValue, holds_eq_true_iff.1 hLog, rfl⟩
  · exact altered_lost hWrite

theorem deleteRecord_eq_ok {id : CalibrationRecordId} {found : Bool}
    (hWrite : db.deleteRecord id = .ok (found, after)) :
    Altered db after found
      (id.text ∈ db.records.map RecordRow.id ∧
        after = { db with records := db.records.filter fun row => row.id != id.text }) := by
  obtain ⟨rfl, rfl⟩ := Prod.mk.inj (Except.ok.inj hWrite)
  cases hHeld : holds RecordRow.id id.text db.records with
  | false =>
      rw [holds_eq_false_iff] at hHeld
      have hOthers : (db.records.filter fun row => row.id != id.text) = db.records := by
        rw [List.filter_eq_self]
        intro row hRow
        exact bne_iff_ne.2 fun hSame => hHeld (hSame ▸ List.mem_map_of_mem hRow)
      rw [hOthers]
      exact .inl ⟨rfl, rfl⟩
  | true => exact .inr ⟨rfl, holds_eq_true_iff.1 hHeld, rfl⟩

end LawnCalibration.Store.Database
