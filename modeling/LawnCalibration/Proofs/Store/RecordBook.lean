import LawnCalibration.Proofs.Store.Legibility
import LawnCalibration.Proofs.Store.LogBook

/-
The records of a log in the order of their creation.

The records on file are told from the requests and their answers alone, in the
order of insertion.  A log that is loaded has just those that belong to it, the
oldest first, whatever moved or was deleted in between.
-/

set_option autoImplicit false

namespace LawnCalibration

open Store (Database RecordRow)

namespace Storage

/-- The records on file after the answer to a request.  A change keeps the time of creation. -/
def Request.filed (request : Request) (answer : Except StoreError Answer)
    (records : List CalibrationRecord) : List CalibrationRecord :=
  match request, answer with
  | .insertRecord record, .ok _ => records ++ [record.kept]
  | .updateRecord new, .ok (.changed true) =>
      records.map fun record =>
        if record.id = new.id then { new.kept with createdAt := record.createdAt } else record
  | .deleteRecord id, .ok (.changed true) => records.filter fun record => record.id ≠ id
  | _, _ => records

def filedRun (requests : List Request) : List CalibrationRecord :=
  Run.history Request.perform Request.filed requests Database.empty []

end Storage

namespace Store

private theorem ofRecord_settled (number : Int) (record : CalibrationRecord) (calibration : Float) :
    RecordRow.ofRecord number { record with
      measurementValue := settled record.measurementValue
      calibration } = RecordRow.ofRecord number record := by
  simp only [RecordRow.ofRecord, storedReal_settled]

def recordTable : Numbered RecordRow CalibrationRecord where
  toRow := RecordRow.ofRecord
  number := RecordRow.number
  createdAt := RecordRow.createdAt
  read := RecordRow.toRecord
  time := CalibrationRecord.createdAt
  kept := CalibrationRecord.kept
  number_toRow _ _ := rfl
  createdAt_toRow _ _ := rfl
  toRow_kept number record := ofRecord_settled number record 0.0
  kept_kept record := by simp only [CalibrationRecord.kept, settled_settled]
  read_toRow {number record found} hRead := by
    obtain ⟨-, created, hCreated, -, rfl⟩ := RecordRow.toRecord_ofRecord_iff.1 hRead
    obtain ⟨hYear, rfl⟩ := readInstant_instantText_eq_ok_iff.1 hCreated
    exact ⟨hYear, rfl⟩

/-- The table holds the records on file, each under an identifier of its own. -/
structure HoldsRecords (rows : List RecordRow) (records : List CalibrationRecord) : Prop where
  rows : recordTable.Holds rows records
  identifiers : (records.map CalibrationRecord.id).Nodup

namespace HoldsRecords

variable {rows : List RecordRow} {records : List CalibrationRecord}

theorem mem_id (hHolds : HoldsRecords rows records) {record : CalibrationRecord}
    (hRecord : record ∈ records) : record.id.text ∈ rows.map RecordRow.id := by
  obtain ⟨-, entries, -, rfl, rfl⟩ := hHolds.rows
  obtain ⟨entry, hEntry, rfl⟩ := List.mem_map.1 hRecord
  exact List.mem_map.2 ⟨recordTable.rowOf entry, List.mem_map_of_mem hEntry, rfl⟩

theorem concat (hHolds : HoldsRecords rows records) {record : CalibrationRecord}
    (hNew : record.id.text ∉ rows.map RecordRow.id) :
    HoldsRecords (rows ++ [.ofRecord (nextNumber RecordRow.number rows) record])
      (records ++ [record.kept]) where
  rows := hHolds.rows.concat record
  identifiers := by
    refine nodup_map_concat hHolds.identifiers ?_
    intro hUsed
    obtain ⟨other, hOther, hSame⟩ := List.mem_map.1 hUsed
    apply hNew
    have hId : other.id = record.id := hSame
    exact hId ▸ hHolds.mem_id hOther

private theorem isRecord_ofRecord (id : CalibrationRecordId) (number : Int)
    (record : CalibrationRecord) :
    ((RecordRow.ofRecord number record).id == id.text) = decide (record.id = id) := by
  rw [Bool.eq_iff_iff, beq_iff_eq, decide_eq_true_iff]
  exact Identifier.text_inj

theorem change (hHolds : HoldsRecords rows records) (new : CalibrationRecord) :
    HoldsRecords
      (changeRows (fun row => row.id == new.id.text)
        (fun row => { RecordRow.ofRecord row.number new with createdAt := row.createdAt }) rows)
      (records.map fun record =>
        if record.id = new.id then { new.kept with createdAt := record.createdAt } else record) where
  rows := by
    have hTable : recordTable.Holds
        (changeRows (fun row => row.id == new.id.text)
          (fun row => { RecordRow.ofRecord row.number new with createdAt := row.createdAt }) rows)
        (records.map fun record => if decide (record.id = new.id) then
          { new.kept with createdAt := record.createdAt } else record) := by
      apply hHolds.rows.change
      · exact isRecord_ofRecord new.id
      · intro number record
        exact congrArg (fun row : RecordRow => { row with createdAt := instantText record.createdAt })
          (recordTable.toRow_kept number new).symm
      · intro record
        exact congrArg (fun kept : CalibrationRecord => { kept with createdAt := record.createdAt })
          (recordTable.kept_kept new)
    simp only [decide_eq_true_eq] at hTable
    exact hTable
  identifiers := by
    have hSame : (records.map fun record =>
        if record.id = new.id then { new.kept with createdAt := record.createdAt } else record).map
          CalibrationRecord.id = records.map CalibrationRecord.id := by
      rw [List.map_map]
      refine List.map_congr_left fun record _ => ?_
      by_cases hId : record.id = new.id
      · simp only [Function.comp_apply, if_pos hId]
        exact hId.symm
      · simp only [Function.comp_apply, if_neg hId]
    rw [hSame]
    exact hHolds.identifiers

theorem remove (hHolds : HoldsRecords rows records) (id : CalibrationRecordId) :
    HoldsRecords (rows.filter fun row => row.id != id.text)
      (records.filter fun record => record.id ≠ id) where
  rows := by
    apply hHolds.rows.filter
    intro number record
    rw [bne, decide_not]
    exact congrArg (!·) (isRecord_ofRecord id number record)
  identifiers := hHolds.identifiers.sublist (List.filter_sublist.map CalibrationRecord.id)

end HoldsRecords
end Store

namespace Storage

open Store (HoldsRecords)

variable {db : Database}

def Request.WritesRecords : Request → Prop
  | .insertRecord _ | .updateRecord _ | .deleteRecord _ => True
  | _ => False

/-- Any other request leaves the table of records as it is. -/
theorem Request.records_perform {request : Request} (hOther : ¬ request.WritesRecords) :
    (request.perform db).2.records = db.records := by
  cases request with
  | insertUnit unit =>
      exact insertion_keeps fun _ hWrite => (Database.insertUnit_eq_ok hWrite).2 ▸ rfl
  | insertFormulation formulation =>
      exact insertion_keeps fun _ hWrite => (Database.insertFormulation_eq_ok hWrite).2.2 ▸ rfl
  | insertLawnService service =>
      exact insertion_keeps fun _ hWrite => (Database.insertLawnService_eq_ok hWrite).2.2.2.2 ▸ rfl
  | insertLog log =>
      exact insertion_keeps fun _ hWrite => (Database.insertLog_eq_ok hWrite).2.2 ▸ rfl
  | updateUnit unit =>
      exact alteration_keeps (fun _ _ => Database.updateUnit_eq_ok) fun _ hAfter => hAfter ▸ rfl
  | updateFormulation formulation =>
      exact alteration_keeps (fun _ _ => Database.updateFormulation_eq_ok)
        fun _ hMeaning => hMeaning.2 ▸ rfl
  | updateLawnService service =>
      exact alteration_keeps (fun _ _ => Database.updateLawnService_eq_ok)
        fun _ hMeaning => hMeaning.2.2.2 ▸ rfl
  | updateLog log =>
      exact alteration_keeps (fun _ _ => Database.updateLog_eq_ok) fun _ hMeaning => hMeaning.2 ▸ rfl
  | deleteLog id moment =>
      exact alteration_keeps (fun _ _ => Database.deleteLog_eq_ok) fun _ hMeaning => hMeaning.2 ▸ rfl
  | insertRecord record => exact absurd trivial hOther
  | updateRecord record => exact absurd trivial hOther
  | deleteRecord id => exact absurd trivial hOther
  | _ => rfl

/-- The table of records and the records on file follow a request alike. -/
theorem Request.holdsRecords_perform {records : List CalibrationRecord}
    (hHolds : HoldsRecords db.records records) (request : Request) :
    HoldsRecords (request.perform db).2.records (request.filed (request.perform db).1 records) := by
  cases request with
  | insertRecord record =>
      refine insertion_follows (fun db => HoldsRecords db.records)
        (fun answer => Request.filed (.insertRecord record) answer records) hHolds (fun _ => rfl) ?_
      intro after hWrite
      obtain ⟨-, hNew, -, rfl⟩ := Database.insertRecord_eq_ok hWrite
      exact hHolds.concat hNew
  | updateRecord new =>
      refine alteration_follows (fun db => HoldsRecords db.records)
        (fun answer => Request.filed (.updateRecord new) answer records) hHolds
        (fun _ _ => Database.updateRecord_eq_ok) (fun _ => rfl) rfl ?_
      rintro after ⟨-, -, rfl⟩
      exact hHolds.change new
  | deleteRecord id =>
      refine alteration_follows (fun db => HoldsRecords db.records)
        (fun answer => Request.filed (.deleteRecord id) answer records) hHolds
        (fun _ _ => Database.deleteRecord_eq_ok) (fun _ => rfl) rfl ?_
      rintro after ⟨-, rfl⟩
      exact hHolds.remove id
  | _ =>
      rw [Request.records_perform id]
      exact hHolds

/-- The table of records holds the records on file. -/
theorem holdsRecords_run (requests : List Request) :
    HoldsRecords (performAll requests Database.empty).records (filedRun requests) := by
  have hEmpty : HoldsRecords Database.empty.records [] := ⟨Store.Numbered.holds_nil, List.nodup_nil⟩
  exact Run.history_follows (R := fun (db : Database) => HoldsRecords db.records) hEmpty
    (fun request _ _ hHolds => request.holdsRecords_perform hHolds) requests

end Storage

/-! ### The records of a log -/

open Storage (Request performAll filedRun)

theorem loadRecords_eq_earliestFirst {db : Database} {records found : List CalibrationRecord}
    {log : CalibrationLogId} (hHolds : Store.HoldsRecords db.records records)
    (hLoad : db.loadRecords log = .ok found) :
    found = Store.earliestFirst CalibrationRecord.createdAt
      (records.filter fun record => record.calibrationLogId = log) := by
  have hChosen : Store.recordTable.Holds
      (db.records.filter fun row => row.calibrationLogId == log.text)
      (records.filter fun record => record.calibrationLogId = log) := by
    apply hHolds.rows.filter
    intro number record
    rw [Bool.eq_iff_iff, beq_iff_eq, decide_eq_true_iff]
    exact Identifier.text_inj
  exact (hChosen.read_sorted hLoad).2

/-- After any run of requests, the records that are loaded for a log are those on file that belong
to it, each of them once, by the order of their times of creation.  Those of one instant stand in
the order in which they were inserted. -/
theorem loadRecords_in_creation_order (requests : List Request) (log : CalibrationLogId)
    (records : List CalibrationRecord)
    (hLoad : Storage.loadRecords log (performAll requests Database.empty) = .ok records) :
    records.Perm ((filedRun requests).filter fun record => record.calibrationLogId = log) ∧
      (records.map CalibrationRecord.id).Nodup ∧
      records.Pairwise (fun first second => first.createdAt ≤ second.createdAt) ∧
      ∀ moment, (records.filter fun record => record.createdAt = moment) =
        ((filedRun requests).filter fun record => record.calibrationLogId = log).filter
          fun record => record.createdAt = moment := by
  have hHolds := Storage.holdsRecords_run requests
  obtain rfl := loadRecords_eq_earliestFirst hHolds hLoad
  have hPerm : (Store.earliestFirst CalibrationRecord.createdAt
      ((filedRun requests).filter fun record => record.calibrationLogId = log)).Perm
        ((filedRun requests).filter fun record => record.calibrationLogId = log) :=
    Store.earliestFirst_perm
  refine ⟨hPerm, ?_, Store.pairwise_earliestFirst, fun moment => Store.filter_earliestFirst moment⟩
  rw [(hPerm.map CalibrationRecord.id).nodup_iff]
  exact hHolds.identifiers.sublist (List.filter_sublist.map CalibrationRecord.id)

private theorem autumn_isDay : Calendar.IsDay 2025 9 2 := by
  decide

def autumnMorning : Calendar.Instant :=
  Calendar.Instant.startOfDay ⟨2025, 9, 2, autumn_isDay⟩

def autumnEvening : Calendar.Instant :=
  { autumnMorning with second := 72000, second_lt := by decide, leap := by decide }

def autumnRecord (id : CalibrationRecordId) (log : CalibrationLogId) (created : Calendar.Instant) :
    CalibrationRecord :=
  ⟨id, log, 1.5, "g", 10, created, created, 0.0⟩

/-- Records that are inserted out of order, one of them into another log from where it moves, with a
deletion in between. -/
def movedRecordRun : List Request :=
  [.insertFormulation ⟨⟨1⟩, "Granular", autumnMorning, autumnMorning⟩,
    .insertLawnService ⟨⟨"FERT", "Fertilizer", ⟨1⟩, 3.5, "kg", "g", "amount", ""⟩, ⟨2⟩,
      autumnMorning, autumnMorning⟩,
    .insertLog ⟨⟨3⟩, ⟨9⟩, ⟨2⟩, autumnMorning, autumnMorning, none, none, []⟩,
    .insertLog ⟨⟨4⟩, ⟨9⟩, ⟨2⟩, autumnMorning, autumnMorning, none, none, []⟩,
    .insertRecord (autumnRecord ⟨5⟩ ⟨3⟩ autumnEvening),
    .insertRecord (autumnRecord ⟨6⟩ ⟨3⟩ autumnMorning),
    .deleteRecord ⟨6⟩,
    .insertRecord (autumnRecord ⟨7⟩ ⟨4⟩ autumnEvening),
    .insertRecord (autumnRecord ⟨8⟩ ⟨3⟩ autumnMorning),
    .updateRecord (autumnRecord ⟨7⟩ ⟨3⟩ autumnMorning)]

private theorem movedRecordRun_readable :
    ∀ row ∈ (performAll movedRecordRun Database.empty).records, row.toRecord.isOk = true := by
  decide +kernel

/-- The records of that log.  The one that moved has kept its time of creation and stands behind the
one that was inserted before it. -/
theorem loadRecords_after_move :
    ∃ records, Storage.loadRecords ⟨3⟩ (performAll movedRecordRun Database.empty) = .ok records ∧
      records.Pairwise (fun first second => first.createdAt ≤ second.createdAt) ∧
      (records.filter fun record => record.createdAt = autumnMorning).map CalibrationRecord.id =
        [⟨8⟩] ∧
      (records.filter fun record => record.createdAt = autumnEvening).map CalibrationRecord.id =
        [⟨5⟩, ⟨7⟩] := by
  have hReadable : ∀ row ∈ (performAll movedRecordRun Database.empty).records,
      ∃ record, row.toRecord = .ok record := by
    intro row hRow
    have hOk := movedRecordRun_readable row hRow
    cases hRecord : row.toRecord with
    | error error =>
        rw [hRecord] at hOk
        cases hOk
    | ok record => exact ⟨record, rfl⟩
  obtain ⟨records, hLoad⟩ := Database.exists_loadRecords hReadable ⟨3⟩
  obtain ⟨-, -, hOrder, hInserted⟩ :=
    loadRecords_in_creation_order movedRecordRun ⟨3⟩ records hLoad
  refine ⟨records, hLoad, hOrder, ?_, ?_⟩
  · rw [hInserted]
    decide +kernel
  · rw [hInserted]
    decide +kernel

end LawnCalibration
