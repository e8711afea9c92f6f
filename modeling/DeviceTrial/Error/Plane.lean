/-
**Faults of the control plane.**

A call to the control plane fails in one of three ways. Only the first of them may count as success
later on: what is to be taken away is already gone.
-/

namespace DeviceTrial

/-- Why a call to the control plane failed. -/
inductive PlaneError where
  /-- The addressed resource does not exist. -/
  | notFound (resource : String)
  /-- The call was refused, or the control plane could not be reached. -/
  | refused (operation reason : String)
  /-- The call succeeded, but its answer lacks a required part. -/
  | incomplete (operation reason : String)
deriving DecidableEq, Repr

/-- The text of a fault of the control plane. -/
def PlaneError.message : PlaneError → String
  | .notFound resource => s!"{resource} not found"
  | .refused operation reason => s!"{operation} failed: {reason}"
  | .incomplete operation reason => s!"invalid {operation} response: {reason}"

/-- Whether the fault is that the resource does not exist. -/
def PlaneError.isNotFound : PlaneError → Bool
  | .notFound _ => true
  | _ => false

theorem PlaneError.isNotFound_iff (fault : PlaneError) :
    fault.isNotFound = true ↔ ∃ resource, fault = .notFound resource := by
  cases fault <;> simp [isNotFound]

end DeviceTrial
