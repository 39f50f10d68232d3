import LawnCalibration.Entity.Validation
import LawnCalibration.Settings
import LawnCalibration.Store.Error

/-
Why the service refuses a call.

A formula that fails is no error of the service: it leaves out a value.
-/

set_option autoImplicit false

namespace LawnCalibration

open Store (EntityName)

inductive ServiceError where
  | notFound (entity : EntityName) (key : String)
  | invalid (reason : Entity.Invalid)
  | store (error : StoreError)
  | settings (error : SettingsError)
deriving DecidableEq, Repr

def ServiceError.message : ServiceError → String
  | .notFound entity key => entity.label ++ " " ++ key ++ " not found"
  | .invalid reason => reason.message
  | .store error => error.message
  | .settings error => error.message

end LawnCalibration
