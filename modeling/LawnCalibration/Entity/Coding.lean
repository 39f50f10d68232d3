import LawnCalibration.Calendar.DateText
import LawnCalibration.Calendar.Interchange
import LawnCalibration.Document
import LawnCalibration.Entity.CalibrationLog
import LawnCalibration.Entity.Formulation
import LawnCalibration.Entity.LawnService
import LawnCalibration.Entity.MeasureUnit

/-
Entities as documents.

Every entity is written as a record of its fields.  A calibration that was not
computed is left out of a log, while a missing time of deletion is null.
-/

set_option autoImplicit false

namespace LawnCalibration

open Calendar (Date Instant)
open Document (Slot slots?)

def Calendar.Instant.toDocument (instant : Instant) : Document :=
  .text (Calendar.Interchange.text instant)

def Calendar.Instant.ofDocument? : Document → Option Instant
  | .text text => (Calendar.Interchange.read text).toOption
  | _ => none

def Calendar.Date.ofDocument? : Document → Option Calendar.Date
  | .text text => (Calendar.Date.readSpaced text).toOption
  | _ => none

namespace Identifier

variable {kind : Kind}

def toDocument (id : Identifier kind) : Document :=
  .text id.text

def ofDocument? : Document → Option (Identifier kind)
  | .text text => (Identifier.read text).toOption
  | _ => none

end Identifier

namespace MeasureUnit

def toDocument (unit : MeasureUnit) : Document :=
  .record [
    ("symbol", .text unit.symbol),
    ("name", .text unit.name),
    ("created_at", unit.createdAt.toDocument),
    ("updated_at", unit.updatedAt.toDocument)]

def ofDocument? (document : Document) : Option MeasureUnit := do
  match ← slots? ["symbol", "name", "created_at", "updated_at"] document with
  | [symbol, name, createdAt, updatedAt] =>
      return {
        symbol := ← symbol.required Document.toText?
        name := ← name.required Document.toText?
        createdAt := ← createdAt.required Instant.ofDocument?
        updatedAt := ← updatedAt.required Instant.ofDocument? }
  | _ => none

end MeasureUnit

def UnitDraft.ofDocument? (document : Document) : Option UnitDraft := do
  match ← slots? ["symbol", "name"] document with
  | [symbol, name] =>
      return {
        symbol := ← symbol.required Document.toText?
        name := ← name.required Document.toText? }
  | _ => none

def UnitPatch.ofDocument? (document : Document) : Option UnitPatch := do
  match ← slots? ["name"] document with
  | [name] => return { name := ← name.optional Document.toText? }
  | _ => none

namespace Formulation

def toDocument (formulation : Formulation) : Document :=
  .record [
    ("id", formulation.id.toDocument),
    ("name", .text formulation.name),
    ("created_at", formulation.createdAt.toDocument),
    ("updated_at", formulation.updatedAt.toDocument)]

def ofDocument? (document : Document) : Option Formulation := do
  match ← slots? ["id", "name", "created_at", "updated_at"] document with
  | [id, name, createdAt, updatedAt] =>
      return {
        id := ← id.required Identifier.ofDocument?
        name := ← name.required Document.toText?
        createdAt := ← createdAt.required Instant.ofDocument?
        updatedAt := ← updatedAt.required Instant.ofDocument? }
  | _ => none

end Formulation

def FormulationDraft.ofDocument? (document : Document) : Option FormulationDraft := do
  match ← slots? ["name"] document with
  | [name] => return { name := ← name.required Document.toText? }
  | _ => none

def FormulationPatch.ofDocument? (document : Document) : Option FormulationPatch := do
  match ← slots? ["name"] document with
  | [name] => return { name := ← name.optional Document.toText? }
  | _ => none

namespace LawnService

def toDocument (service : LawnService) : Document :=
  .record [
    ("id", service.id.toDocument),
    ("code", .text service.code),
    ("description", .text service.description),
    ("formulation_id", service.formulationId.toDocument),
    ("target_calibration_value", .ofReal service.targetCalibrationValue),
    ("target_calibration_unit", .text service.targetCalibrationUnit),
    ("measurement_unit", .text service.measurementUnit),
    ("calibration_function", .text service.calibrationFunction),
    ("differential_calibration_function", .text service.differentialCalibrationFunction),
    ("created_at", service.createdAt.toDocument),
    ("updated_at", service.updatedAt.toDocument)]

def ofDocument? (document : Document) : Option LawnService := do
  match ← slots? ["id", "code", "description", "formulation_id", "target_calibration_value",
      "target_calibration_unit", "measurement_unit", "calibration_function",
      "differential_calibration_function", "created_at", "updated_at"] document with
  | [id, code, description, formulationId, targetValue, targetUnit, measurementUnit, function,
      differentialFunction, createdAt, updatedAt] =>
      return {
        id := ← id.required Identifier.ofDocument?
        code := ← code.required Document.toText?
        description := ← description.required Document.toText?
        formulationId := ← formulationId.required Identifier.ofDocument?
        targetCalibrationValue := ← targetValue.required Document.toReal?
        targetCalibrationUnit := ← targetUnit.required Document.toText?
        measurementUnit := ← measurementUnit.required Document.toText?
        calibrationFunction := ← function.required Document.toText?
        differentialCalibrationFunction := ← differentialFunction.orElse Document.toText? ""
        createdAt := ← createdAt.required Instant.ofDocument?
        updatedAt := ← updatedAt.required Instant.ofDocument? }
  | _ => none

end LawnService

def LawnServiceDraft.ofDocument? (document : Document) : Option LawnServiceDraft := do
  match ← slots? ["code", "description", "formulation_id", "target_calibration_value",
      "target_calibration_unit", "measurement_unit", "calibration_function",
      "differential_calibration_function"] document with
  | [code, description, formulationId, targetValue, targetUnit, measurementUnit, function,
      differentialFunction] =>
      return {
        code := ← code.required Document.toText?
        description := ← description.required Document.toText?
        formulationId := ← formulationId.required Identifier.ofDocument?
        targetCalibrationValue := ← targetValue.required Document.toReal?
        targetCalibrationUnit := ← targetUnit.required Document.toText?
        measurementUnit := ← measurementUnit.required Document.toText?
        calibrationFunction := ← function.required Document.toText?
        differentialCalibrationFunction := ← differentialFunction.orElse Document.toText? "" }
  | _ => none

def LawnServicePatch.ofDocument? (document : Document) : Option LawnServicePatch := do
  match ← slots? ["code", "description", "formulation_id", "target_calibration_value",
      "target_calibration_unit", "measurement_unit", "calibration_function",
      "differential_calibration_function"] document with
  | [code, description, formulationId, targetValue, targetUnit, measurementUnit, function,
      differentialFunction] =>
      return {
        code := ← code.optional Document.toText?
        description := ← description.optional Document.toText?
        formulationId := ← formulationId.optional Identifier.ofDocument?
        targetCalibrationValue := ← targetValue.optional Document.toReal?
        targetCalibrationUnit := ← targetUnit.optional Document.toText?
        measurementUnit := ← measurementUnit.optional Document.toText?
        calibrationFunction := ← function.optional Document.toText?
        differentialCalibrationFunction := ← differentialFunction.optional Document.toText? }
  | _ => none

namespace CalibrationRecord

def toDocument (record : CalibrationRecord) : Document :=
  .record [
    ("id", record.id.toDocument),
    ("calibration_log_id", record.calibrationLogId.toDocument),
    ("measurement_value", .ofReal record.measurementValue),
    ("measurement_unit", .text record.measurementUnit),
    ("measurement_area", .integer record.measurementArea.toNat),
    ("created_at", record.createdAt.toDocument),
    ("updated_at", record.updatedAt.toDocument),
    ("calibration", .ofReal record.calibration)]

def ofDocument? (document : Document) : Option CalibrationRecord := do
  match ← slots? ["id", "calibration_log_id", "measurement_value", "measurement_unit",
      "measurement_area", "created_at", "updated_at", "calibration"] document with
  | [id, logId, value, unit, area, createdAt, updatedAt, calibration] =>
      return {
        id := ← id.required Identifier.ofDocument?
        calibrationLogId := ← logId.required Identifier.ofDocument?
        measurementValue := ← value.required Document.toReal?
        measurementUnit := ← unit.required Document.toText?
        measurementArea := ← area.required Document.toWord32?
        createdAt := ← createdAt.required Instant.ofDocument?
        updatedAt := ← updatedAt.required Instant.ofDocument?
        calibration := ← calibration.orElse Document.toReal? 0.0 }
  | _ => none

end CalibrationRecord

def RecordDraft.ofDocument? (document : Document) : Option RecordDraft := do
  match ← slots? ["measurement_value", "units", "measurement_area"] document with
  | [value, unit, area] =>
      return {
        measurementValue := ← value.required Document.toReal?
        measurementUnit := ← unit.required Document.toText?
        measurementArea := ← area.required Document.toWord32? }
  | _ => none

def RecordPatch.ofDocument? (document : Document) : Option RecordPatch := do
  match ← slots? ["calibration_log_id", "measurement_value", "measurement_unit",
      "measurement_area"] document with
  | [logId, value, unit, area] =>
      return {
        calibrationLogId := ← logId.optional Identifier.ofDocument?
        measurementValue := ← value.optional Document.toReal?
        measurementUnit := ← unit.optional Document.toText?
        measurementArea := ← area.optional Document.toWord32? }
  | _ => none

def RecordFilter.ofDocument? (document : Document) : Option RecordFilter := do
  match ← slots? ["calibration_log_id"] document with
  | [logId] => return { calibrationLogId := ← logId.optional Identifier.ofDocument? }
  | _ => none

namespace CalibrationLog

def toDocument (log : CalibrationLog) : Document :=
  .record ([
    ("id", log.id.toDocument),
    ("user_id", log.userId.toDocument),
    ("lawn_service_id", log.lawnServiceId.toDocument),
    ("created_at", log.createdAt.toDocument),
    ("updated_at", log.updatedAt.toDocument),
    ("deleted_at", (log.deletedAt.map Instant.toDocument).getD .null)] ++
    (log.currentCalibration.map fun value => ("current_calibration", .ofReal value)).toList ++
    [("records", .list (log.records.map CalibrationRecord.toDocument))])

def ofDocument? (document : Document) : Option CalibrationLog := do
  match ← slots? ["id", "user_id", "lawn_service_id", "created_at", "updated_at", "deleted_at",
      "current_calibration", "records"] document with
  | [id, userId, serviceId, createdAt, updatedAt, deletedAt, calibration, records] =>
      return {
        id := ← id.required Identifier.ofDocument?
        userId := ← userId.required Identifier.ofDocument?
        lawnServiceId := ← serviceId.required Identifier.ofDocument?
        createdAt := ← createdAt.required Instant.ofDocument?
        updatedAt := ← updatedAt.required Instant.ofDocument?
        deletedAt := ← deletedAt.optional Instant.ofDocument?
        currentCalibration := ← calibration.orElse (Document.toOption? Document.toReal?) none
        records := ← records.orElse (Document.toList? CalibrationRecord.ofDocument?) [] }
  | _ => none

end CalibrationLog

def LogDraft.ofDocument? (document : Document) : Option LogDraft := do
  match ← slots? ["lawn_service_id"] document with
  | [serviceId] => return { lawnServiceId := ← serviceId.required Identifier.ofDocument? }
  | _ => none

def LogPatch.ofDocument? (document : Document) : Option LogPatch := do
  match ← slots? ["user_id", "lawn_service_id"] document with
  | [userId, serviceId] =>
      return {
        userId := ← userId.optional Identifier.ofDocument?
        lawnServiceId := ← serviceId.optional Identifier.ofDocument? }
  | _ => none

def LogFilter.ofDocument? (document : Document) : Option LogFilter := do
  match ← slots? ["user_id", "lawn_service_id", "date_from", "date_to"] document with
  | [userId, serviceId, dateFrom, dateTo] =>
      return {
        userId := ← userId.optional Identifier.ofDocument?
        lawnServiceId := ← serviceId.optional Identifier.ofDocument?
        dateFrom := ← dateFrom.optional Date.ofDocument?
        dateTo := ← dateTo.optional Date.ofDocument? }
  | _ => none

end LawnCalibration
