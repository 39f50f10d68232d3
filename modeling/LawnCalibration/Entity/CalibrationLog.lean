import LawnCalibration.Entity.CalibrationRecord

/-
Calibration logs: what one user measured for one lawn service.
-/

set_option autoImplicit false

namespace LawnCalibration

open Calendar (Instant)

/-- A log.  Its records and its calibration are attached when it is read and are
no part of the stored log. -/
structure CalibrationLog where
  id : CalibrationLogId
  userId : UserId
  lawnServiceId : LawnServiceId
  createdAt : Instant
  updatedAt : Instant
  deletedAt : Option Instant
  currentCalibration : Option Float
  records : List CalibrationRecord
deriving DecidableEq

structure LogDraft where
  lawnServiceId : LawnServiceId
deriving DecidableEq

def LogDraft.make (draft : LogDraft) (id : CalibrationLogId) (user : UserId) (now : Instant) :
    CalibrationLog where
  id := id
  userId := user
  lawnServiceId := draft.lawnServiceId
  createdAt := now
  updatedAt := now
  deletedAt := none
  currentCalibration := none
  records := []

structure LogPatch where
  userId : Option UserId
  lawnServiceId : Option LawnServiceId
deriving DecidableEq

def LogPatch.apply (patch : LogPatch) (log : CalibrationLog) : CalibrationLog :=
  { log with
    userId := patch.userId.getD log.userId
    lawnServiceId := patch.lawnServiceId.getD log.lawnServiceId }

/-- Which logs are asked for; the two dates bound the day of creation. -/
structure LogFilter where
  userId : Option UserId
  lawnServiceId : Option LawnServiceId
  dateFrom : Option Calendar.Date
  dateTo : Option Calendar.Date
deriving DecidableEq

end LawnCalibration
