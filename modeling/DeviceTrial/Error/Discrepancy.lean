/-
**What a verification found instead.**

A key that is missing and a value that differs are kept apart, so that a reader of the report can
tell a device that reported nothing from one that reported the wrong thing.
-/

namespace DeviceTrial

/-- Why a verification did not pass. -/
inductive Discrepancy where
  /-- A key on the way is absent. -/
  | missingField (path : String)
  /-- The field is there and holds another value. -/
  | differs (path expected actual : String)
  /-- The resource that the trial should have made does not exist. -/
  | resourceMissing (resource : String)
  /-- The question itself failed, or its answer cannot be understood. -/
  | queryFailed (reason : String)
deriving DecidableEq, Repr

/-- The text of a discrepancy. -/
def Discrepancy.message : Discrepancy → String
  | .missingField path => s!"missing field '{path}'"
  | .differs path expected actual => s!"field '{path}' is {actual}, expected {expected}"
  | .resourceMissing resource => s!"resource not found: {resource}"
  | .queryFailed reason => s!"query error: {reason}"

/-- The short label of a discrepancy. -/
def Discrepancy.label : Discrepancy → String
  | .missingField _ => "missing-field"
  | .differs _ _ _ => "value-mismatch"
  | .resourceMissing _ => "resource-not-found"
  | .queryFailed _ => "query-error"

end DeviceTrial
