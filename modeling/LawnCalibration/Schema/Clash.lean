/-
Clashes of names in a schema.
-/

set_option autoImplicit false

namespace LawnCalibration.Schema

inductive Clash where
  | tableExists (name : String)
  | indexExists (name : String)
  | tableNamed (name : String)
  | indexNamed (name : String)
deriving DecidableEq, Repr

def Clash.message : Clash → String
  | .tableExists name => "table " ++ name ++ " already exists"
  | .indexExists name => "index " ++ name ++ " already exists"
  | .tableNamed name => "there is already a table named " ++ name
  | .indexNamed name => "there is already an index named " ++ name

end LawnCalibration.Schema
