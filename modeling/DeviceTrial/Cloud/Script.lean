/-
**A scripted cloud service.**

For each operation a script lists the responses that its requests get, one after the other; the last
one stays. An operation without a list always succeeds with an empty output. What was requested is
kept.

* `serve_requests` — a request that reaches the service is kept, as the last one.
-/

import DeviceTrial.Cloud.Request
import DeviceTrial.Table

namespace DeviceTrial.Cloud

/-- The responses to come and the requests made so far. -/
structure Script where
  /-- The responses to come, by operation. -/
  responses : Table String (List Response)
  /-- The requests that reached the service, in order. -/
  requests : List Request
  /-- Whether the service can be reached at all. -/
  online : Bool
  /-- The region of the clients. -/
  region : String

namespace Script

/-- A script before the first request. -/
def start (responses : Table String (List Response)) (online : Bool) : Script :=
  ⟨responses, [], online, ""⟩

/-- The responses that an operation still has. -/
def upcoming (script : Script) (operation : String) : List Response :=
  (script.responses.get? operation).getD []

/-- Answers a request. -/
def serve (request : Request) (script : Script) : Response × Script :=
  if script.online then
    let kept := { script with requests := script.requests ++ [request] }
    match script.upcoming request.operation with
    | [] => (.success .empty, kept)
    | [last] => (last, kept)
    | first :: second :: rest =>
      (first, { kept with
        responses := script.responses.insert request.operation (second :: rest) })
  else (.unreachable, script)

theorem serve_requests {script : Script} (reachable : script.online = true) (request : Request) :
    (script.serve request).2.requests = script.requests ++ [request] := by
  unfold serve
  rw [if_pos reachable]
  dsimp only
  split <;> rfl

end Script

end DeviceTrial.Cloud
