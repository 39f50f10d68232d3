import LawnCalibration.Entity.CalibrationLog
import LawnCalibration.Predicate.Condition

/-
The filters of calibration logs and records.
-/

set_option autoImplicit false

namespace LawnCalibration

def LogFilter.fields (filter : LogFilter) : List Predicate.Field := [
  .plain "user_id" (filter.userId.map fun id => .identifier id.bits),
  .plain "lawn_service_id" (filter.lawnServiceId.map fun id => .identifier id.bits),
  .mapped "date_from" "created_at" (filter.dateFrom.map .day),
  .mapped "date_to" "created_at" (filter.dateTo.map .day)]

def RecordFilter.fields (filter : RecordFilter) : List Predicate.Field := [
  .plain "calibration_log_id" (filter.calibrationLogId.map fun id => .identifier id.bits)]

def LogFilter.predicate (filter : LogFilter) : Predicate :=
  .ofFields filter.fields

def RecordFilter.predicate (filter : RecordFilter) : Predicate :=
  .ofFields filter.fields

end LawnCalibration
