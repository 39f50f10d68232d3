import LawnCalibration.Entity.Coding
import LawnCalibration.Proofs.Calendar.Interchange
import LawnCalibration.Proofs.Identifier
import Mathlib.Data.List.Nodup

/-
Entities read back from their documents.

A document keeps everything but numbers that are not finite: those become null,
and no field of an entity that holds a number may be null.
-/

set_option autoImplicit false

namespace LawnCalibration

open Calendar (Instant)
open Document (Slot slots?)

theorem Calendar.Instant.ofDocument?_toDocument (instant : Instant) :
    Instant.ofDocument? instant.toDocument = some instant := by
  change (Calendar.Interchange.read (Calendar.Interchange.text instant)).toOption = some instant
  rw [Calendar.Interchange.read_text]
  rfl

theorem Identifier.ofDocument?_toDocument {kind : Kind} (id : Identifier kind) :
    Identifier.ofDocument? id.toDocument = some id := by
  change (Identifier.read id.text).toOption = some id
  rw [Identifier.read_text]
  rfl

namespace Document

theorem toReal?_ofReal {x : Float} (hFinite : x.isFinite = true) :
    (ofReal x).toReal? = some x := by
  rw [ofReal, if_pos hFinite]
  rfl

private theorem toReal?_ofReal_of_not_finite {x : Float} (hFinite : ¬ x.isFinite = true) :
    (ofReal x).toReal? = none := by
  rw [ofReal, if_neg hFinite]
  rfl

private theorem toWord32?_integer (word : UInt32) : toWord32?
    (.integer word.toNat) = some word := by
  have hBound : ((word.toNat : Nat) : Int) < Int.pow 2 32 := by
    have hWord := word.toNat_lt
    have hSize : Int.pow 2 32 = 4294967296 := rfl
    omega
  rw [toWord32?, if_pos ⟨Int.natCast_nonneg _, hBound⟩, Int.toNat_natCast, UInt32.ofNat_toNat]

/-! ### Structures -/

def present (fields : List (String × Option Document)) : List (String × Document) :=
  fields.filterMap fun field => field.2.map (field.1, ·)

def Slot.ofOption : Option Document → Slot
  | some value => .given value
  | none => .omitted

theorem Slot.ofOption_some (value : Document) : Slot.ofOption (some value) = .given value := rfl

private theorem lookup_present_of_not_mem {fields : List (String × Option Document)} {name : String}
    (hName : name ∉ fields.map Prod.fst) : (present fields).lookup name = none := by
  rw [List.lookup_eq_none_iff]
  intro field hField
  obtain ⟨⟨other, value?⟩, hMember, hValue⟩ := List.mem_filterMap.1 hField
  obtain ⟨value, -, rfl⟩ := Option.map_eq_some_iff.1 hValue
  have hOther : other ∈ fields.map Prod.fst := List.mem_map.2 ⟨_, hMember, rfl⟩
  have hNew : name ≠ other := by
    rintro rfl
    exact hName hOther
  exact bne_iff_ne.2 hNew

/-- By induction on the fields: a field in front has another name. -/
private theorem lookup_present {fields : List (String × Option Document)}
    (hNames : (fields.map Prod.fst).Nodup) {name : String} {value? : Option Document}
    (hField : (name, value?) ∈ fields) : (present fields).lookup name = value? := by
  induction fields with
  | nil => cases hField
  | cons front later ih =>
      obtain ⟨other, other?⟩ := front
      rw [List.map_cons, List.nodup_cons] at hNames
      obtain ⟨hNew, hLater⟩ := hNames
      rcases List.mem_cons.1 hField with hFront | hBehind
      · cases hFront
        cases value? with
        | none =>
            have hAbsent : (present later).lookup name = none := lookup_present_of_not_mem hNew
            exact hAbsent
        | some value => exact List.lookup_cons_self
      · have hOther : name ≠ other := by
          rintro rfl
          exact hNew (List.mem_map.2 ⟨_, hBehind, rfl⟩)
        cases other? with
        | none => exact ih hLater hBehind
        | some value =>
            change List.lookup name ((other, value) :: present later) = _
            rw [List.lookup_cons, beq_false_of_ne hOther]
            exact ih hLater hBehind

private theorem slots?_present {names : List String} {fields : List (String × Option Document)}
    (hNames : names.Nodup) (hNamed : fields.map Prod.fst = names) :
    slots? names (.record (present fields)) =
      some (fields.map fun field => Slot.ofOption field.2) := by
  subst hNamed
  change some (List.map _ (fields.map Prod.fst)) = _
  rw [List.map_map]
  refine congrArg some (List.map_congr_left ?_)
  intro field hField
  rw [Function.comp_apply, lookup_present hNames hField]
  cases field.2 <;> rfl

theorem slots?_record {names : List String} {fields : List (String × Document)}
    (hNames : names.Nodup) (hNamed : fields.map Prod.fst = names) :
    slots? names (.record fields) = some (fields.map fun field => .given field.2) := by
  have hPresent : present (fields.map fun field => (field.1, some field.2)) = fields := by
    simp [present, List.filterMap_map]
  have hSome : (fields.map fun field => (field.1, some field.2)).map Prod.fst = names := by
    rw [List.map_map]
    exact hNamed
  have hSlots := slots?_present hNames hSome
  rw [hPresent, List.map_map] at hSlots
  exact hSlots

/-! ### Fields in order

Each lemma takes one field off a reader, so that a reader is followed from its first field to its
last. -/

namespace Slot

variable {α β : Type} {decode : Document → Option α} {value : Document} {found : α}
  (next : α → Option β)

private theorem bind_required (hRead : decode value = some found) :
    ((given value).required decode >>= next) = next found := by
  rw [required, hRead, Option.bind_eq_bind, Option.bind_some]

private theorem bind_required_none (hRead : decode value = none) :
    ((given value).required decode >>= next) = none := by
  rw [required, hRead, Option.bind_eq_bind, Option.bind_none]

private theorem bind_orElse {standard : α} (hRead : decode value = some found) :
    ((given value).orElse decode standard >>= next) = next found := by
  rw [orElse, hRead, Option.bind_eq_bind, Option.bind_some]

private theorem bind_orElse_none {standard : α} (hRead : decode value = none) :
    ((given value).orElse decode standard >>= next) = none := by
  rw [orElse, hRead, Option.bind_eq_bind, Option.bind_none]

private theorem bind_optional {next : Option α → Option β} {found : Option α}
    (hRead : toOption? decode value = some found) :
    ((given value).optional decode >>= next) = next found := by
  rw [optional, hRead, Option.bind_eq_bind, Option.bind_some]

private theorem bind_identifier {kind : Kind} (id : Identifier kind)
    (next : Identifier kind → Option β) :
    ((given id.toDocument).required Identifier.ofDocument? >>= next) = next id :=
  bind_required next id.ofDocument?_toDocument

private theorem bind_text (text : String) (next : String → Option β) :
    ((given (.text text)).required toText? >>= next) = next text :=
  bind_required next rfl

private theorem bind_instant (instant : Instant) (next : Instant → Option β) :
    ((given instant.toDocument).required Instant.ofDocument? >>= next) = next instant :=
  bind_required next instant.ofDocument?_toDocument

end Slot
end Document

open Document.Slot

theorem MeasureUnit.ofDocument?_toDocument (unit : MeasureUnit) :
    MeasureUnit.ofDocument? unit.toDocument = some unit := by
  unfold toDocument ofDocument?
  rw [Document.slots?_record]
  · rw [Option.bind_eq_bind, Option.bind_some]
    simp only [List.map, ↓bind_text, ↓bind_instant]
    rfl
  · decide
  · rfl

theorem Formulation.ofDocument?_toDocument (formulation : Formulation) :
    Formulation.ofDocument? formulation.toDocument = some formulation := by
  unfold toDocument ofDocument?
  rw [Document.slots?_record]
  · rw [Option.bind_eq_bind, Option.bind_some]
    simp only [List.map, ↓bind_identifier, ↓bind_text, ↓bind_instant]
    rfl
  · decide
  · rfl

theorem LawnService.ofDocument?_toDocument_iff (service : LawnService) :
    LawnService.ofDocument? service.toDocument = some service ↔
      service.targetCalibrationValue.isFinite = true := by
  unfold toDocument ofDocument?
  rw [Document.slots?_record]
  · rw [Option.bind_eq_bind, Option.bind_some]
    by_cases hTarget : service.targetCalibrationValue.isFinite = true
    · have hFunction : (Document.text service.differentialCalibrationFunction).toText? =
          some service.differentialCalibrationFunction := rfl
      simp only [List.map, ↓bind_identifier, ↓bind_text, ↓bind_instant,
        ↓bind_required _ (Document.toReal?_ofReal hTarget), ↓bind_orElse _ hFunction]
      exact iff_of_true rfl hTarget
    · have hNull := Document.toReal?_ofReal_of_not_finite hTarget
      simp only [List.map, ↓bind_identifier, ↓bind_text, ↓bind_required_none _ hNull]
      exact iff_of_false nofun hTarget
  · decide
  · rfl

def CalibrationRecord.Finite (record : CalibrationRecord) : Prop :=
  record.measurementValue.isFinite = true ∧ record.calibration.isFinite = true

instance (record : CalibrationRecord) : Decidable record.Finite :=
  inferInstanceAs (Decidable (_ ∧ _))

theorem CalibrationRecord.ofDocument?_toDocument (record : CalibrationRecord) :
    CalibrationRecord.ofDocument? record.toDocument =
      if record.Finite then some record else none := by
  unfold toDocument ofDocument?
  rw [Document.slots?_record]
  · rw [Option.bind_eq_bind, Option.bind_some]
    have hArea := Document.toWord32?_integer record.measurementArea
    by_cases hValue : record.measurementValue.isFinite = true
    · simp only [List.map, ↓bind_identifier, ↓bind_text, ↓bind_instant, ↓bind_required _ hArea,
        ↓bind_required _ (Document.toReal?_ofReal hValue)]
      by_cases hCalibration : record.calibration.isFinite = true
      · rw [bind_orElse _ (Document.toReal?_ofReal hCalibration), if_pos ⟨hValue, hCalibration⟩]
        rfl
      · rw [bind_orElse_none _ (Document.toReal?_ofReal_of_not_finite hCalibration),
          if_neg fun hFinite => hCalibration hFinite.2]
    · have hNull := Document.toReal?_ofReal_of_not_finite hValue
      simp only [List.map, ↓bind_identifier, ↓bind_required_none _ hNull]
      exact (if_neg fun hFinite => hValue hFinite.1).symm
  · decide
  · rfl

theorem CalibrationRecord.ofDocument?_toDocument_iff (record : CalibrationRecord) :
    CalibrationRecord.ofDocument? record.toDocument = some record ↔ record.Finite := by
  rw [ofDocument?_toDocument]
  by_cases hFinite : record.Finite
  · exact iff_of_true (if_pos hFinite) hFinite
  · rw [if_neg hFinite]
    exact iff_of_false nofun hFinite

def CalibrationLog.Finite (log : CalibrationLog) : Prop :=
  (∀ value ∈ log.currentCalibration, value.isFinite = true) ∧
    ∀ record ∈ log.records, record.Finite

theorem CalibrationRecord.mapM_toDocument (records : List CalibrationRecord) :
    (records.map toDocument).mapM ofDocument? =
      if ∀ record ∈ records, record.Finite then some records else none := by
  induction records with
  | nil => simp
  | cons record later ih =>
      rw [List.map_cons, List.mapM_cons, ofDocument?_toDocument, ih]
      by_cases hRecord : record.Finite
      · by_cases hLater : ∀ record ∈ later, record.Finite
        · rw [if_pos hRecord, if_pos hLater, if_pos (List.forall_mem_cons.2 ⟨hRecord, hLater⟩)]
          rfl
        · have hNot : ¬ ∀ other ∈ record :: later, other.Finite :=
            fun hAll => hLater (List.forall_mem_cons.1 hAll).2
          rw [if_pos hRecord, if_neg hLater, if_neg hNot]
          rfl
      · have hNot : ¬ ∀ other ∈ record :: later, other.Finite :=
          fun hAll => hRecord (List.forall_mem_cons.1 hAll).1
        rw [if_neg hRecord, if_neg hNot]
        rfl

/-- A missing time is null, and null is read as a missing time. -/
theorem Document.toOption?_instant (time? : Option Instant) :
    toOption? Instant.ofDocument? ((time?.map Instant.toDocument).getD .null) = some time? := by
  cases time? with
  | none => rfl
  | some time =>
      change (Instant.ofDocument? time.toDocument).map some = some (some time)
      rw [Instant.ofDocument?_toDocument]
      rfl

/-- A calibration that is not finite is read back as if there were none. -/
theorem Document.orElse_ofReal (value? : Option Float) :
    (Slot.ofOption (value?.map ofReal)).orElse (toOption? toReal?) none =
      some (value?.filter Float.isFinite) := by
  cases value? with
  | none => rfl
  | some value =>
      by_cases hFinite : value.isFinite = true
      · rw [Option.filter_some_pos hFinite, Option.map_some, ofReal, if_pos hFinite]
        rfl
      · rw [Option.filter_some_neg (Bool.eq_false_iff.2 hFinite), Option.map_some, ofReal,
          if_neg hFinite]
        rfl

namespace CalibrationLog

private theorem toDocument_eq (log : CalibrationLog) :
    log.toDocument = .record (Document.present [
      ("id", some log.id.toDocument),
      ("user_id", some log.userId.toDocument),
      ("lawn_service_id", some log.lawnServiceId.toDocument),
      ("created_at", some log.createdAt.toDocument),
      ("updated_at", some log.updatedAt.toDocument),
      ("deleted_at", some ((log.deletedAt.map Instant.toDocument).getD .null)),
      ("current_calibration", log.currentCalibration.map .ofReal),
      ("records", some (.list (log.records.map CalibrationRecord.toDocument)))]) := by
  unfold toDocument
  cases log.currentCalibration with
  | none => rfl
  | some value => rfl

theorem ofDocument?_toDocument (log : CalibrationLog) :
    ofDocument? log.toDocument =
      if ∀ record ∈ log.records, record.Finite then
        some { log with currentCalibration := log.currentCalibration.filter Float.isFinite }
      else none := by
  rw [toDocument_eq]
  unfold ofDocument?
  rw [Document.slots?_present]
  · rw [Option.bind_eq_bind, Option.bind_some]
    have hDeleted := Document.toOption?_instant log.deletedAt
    have hCalibration := Document.orElse_ofReal log.currentCalibration
    have hList : (Document.list (log.records.map CalibrationRecord.toDocument)).toList?
        CalibrationRecord.ofDocument? = _ := CalibrationRecord.mapM_toDocument log.records
    simp only [List.map, ofOption_some, ↓bind_identifier, ↓bind_instant, ↓bind_optional hDeleted]
    rw [hCalibration, Option.bind_eq_bind, Option.bind_some]
    by_cases hRecords : ∀ record ∈ log.records, record.Finite
    · rw [if_pos hRecords] at hList ⊢
      rw [bind_orElse _ hList]
      rfl
    · rw [if_neg hRecords] at hList ⊢
      exact bind_orElse_none _ hList
  · decide
  · rfl

theorem ofDocument?_toDocument_iff (log : CalibrationLog) :
    ofDocument? log.toDocument = some log ↔ log.Finite := by
  rw [ofDocument?_toDocument]
  unfold Finite
  by_cases hRecords : ∀ record ∈ log.records, record.Finite
  · rw [if_pos hRecords, Option.some.injEq]
    constructor
    · intro hSame
      refine ⟨?_, hRecords⟩
      intro value hValue
      have hKept : log.currentCalibration.filter Float.isFinite = log.currentCalibration :=
        congrArg currentCalibration hSame
      rw [← hKept] at hValue
      exact (Option.mem_filter_iff.1 hValue).2
    · intro hFinite
      have hKept : log.currentCalibration.filter Float.isFinite = log.currentCalibration := by
        cases hValue : log.currentCalibration with
        | none => rfl
        | some value => exact Option.filter_some_pos (hFinite.1 value hValue)
      rw [hKept]
  · rw [if_neg hRecords]
    exact iff_of_false nofun fun hFinite => hRecords hFinite.2

end CalibrationLog

end LawnCalibration
