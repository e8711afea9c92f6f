/-
**Interrupting a control plane.**

Some calls to a control plane can be made to come out otherwise: the call is counted per operation,
and the first interruption that applies to its number takes the place of the answer. The control
plane itself never sees such a call.

* `answer_interrupted` — an interrupted call leaves the control plane as it is;
* `answer_free` — a call without interruption is answered by the control plane.
-/

import DeviceTrial.Plane.Call
import DeviceTrial.Table

namespace DeviceTrial

/-- How an interrupted call comes out. -/
inductive Interruption where
  /-- It fails. -/
  | fault (problem : PlaneError)
  /-- It breaks down. -/
  | panic (message : String)
  /-- It never comes back. -/
  | hang
deriving DecidableEq, Repr

/-- The reply of an interrupted call. -/
def Interruption.reply {α : Type} : Interruption → Reply α
  | .fault problem => .error problem
  | .panic message => .panic message
  | .hang => .hang

/-- An interruption of one operation, at one of its calls or at all of them. -/
structure Injection where
  /-- The operation. -/
  operation : Operation
  /-- The number of the call, counted from one; `none` stands for every call. -/
  number : Option Nat
  /-- How the call comes out. -/
  interruption : Interruption
deriving DecidableEq, Repr

/-- Whether an injection applies to a call of the operation with that number. -/
def Injection.appliesTo (injection : Injection) (operation : Operation) (number : Nat) : Bool :=
  injection.operation == operation &&
    match injection.number with
    | none => true
    | some n => n == number

/-- A control plane's state together with the number of calls per operation. -/
structure Interrupted (σ : Type) where
  /-- The state of the control plane. -/
  state : σ
  /-- The number of calls of each operation so far. -/
  counts : Table Operation Nat
  /-- The injections in order of preference. -/
  injections : List Injection

namespace Interrupted

variable {σ : Type}

/-- A control plane's state before the first call. -/
def start (state : σ) (injections : List Injection) : Interrupted σ :=
  ⟨state, Table.empty, injections⟩

/-- The number that the next call of an operation has. -/
def nextNumber (interrupted : Interrupted σ) (operation : Operation) : Nat :=
  (interrupted.counts.get? operation).getD 0 + 1

/-- The state with one more call of the operation. -/
def counted (interrupted : Interrupted σ) (operation : Operation) : Interrupted σ :=
  { interrupted with
    counts := interrupted.counts.insert operation (interrupted.nextNumber operation) }

/-- The interruption that the next call of an operation meets. -/
def interruption? (interrupted : Interrupted σ) (operation : Operation) : Option Interruption :=
  (interrupted.injections.find? fun injection =>
    injection.appliesTo operation (interrupted.nextNumber operation)).map (·.interruption)

/-- The control plane with its interruptions. -/
def plane (inner : Plane σ) : Plane (Interrupted σ) where
  answer call interrupted :=
    let known := interrupted.counted call.operation
    match interrupted.interruption? call.operation with
    | some interruption => (interruption.reply, known)
    | none =>
      let answered := inner.answer call known.state
      (answered.1, { known with state := answered.2 })

theorem answer_interrupted (inner : Plane σ) {interrupted : Interrupted σ} {call : Call}
    {interruption : Interruption}
    (meets : interrupted.interruption? call.operation = some interruption) :
    ((plane inner).answer call interrupted).1 = interruption.reply ∧
      ((plane inner).answer call interrupted).2.state = interrupted.state := by
  simp [plane, meets, counted]

theorem answer_free (inner : Plane σ) {interrupted : Interrupted σ} {call : Call}
    (free : interrupted.interruption? call.operation = none) :
    ((plane inner).answer call interrupted).1 = (inner.answer call interrupted.state).1 ∧
      ((plane inner).answer call interrupted).2.state =
        (inner.answer call interrupted.state).2 := by
  simp [plane, free, counted]

end Interrupted

end DeviceTrial
