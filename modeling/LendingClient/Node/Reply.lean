import LendingClient.Error.Basic
import LendingClient.Node.Fault
import LendingClient.Node.Result

/-!
# Replies of a node

What comes back for a request: a failure of the transport, or a JSON object that holds either a
result or a refusal. A refusal because of a failed trial run brings what the programs wrote down.
-/

namespace LendingClient

/-- What comes back for a request. -/
inductive NodeReply where
  /-- Nothing, for there is no connection. -/
  | unreachable
  /-- Something that is no JSON. -/
  | garbled
  /-- A status of the transport, and no JSON. -/
  | status (code : Nat)
  /-- A JSON value. -/
  | body (json : Json)

/-- The code of a refusal because of a failed trial run. -/
def NodeReply.trialFailed : Int := -32002

/-- The fault that a refusal stands for. -/
def NodeReply.fault (refusal : Json) : NodeFault :=
  let read : Json.Decode (Int × String) :=
    return ((← refusal.field "code" Json.asI64).toInt, ← refusal.field "message" Json.asText)
  match read with
  | .error why => .unreadableRefusal refusal why
  | .ok (code, reason) =>
    let logs := if code = trialFailed then
        match refusal.field "data" Json.asSimulation with
        | .ok simulation => simulation.logs
        | .error _ => []
      else []
    .refused code reason logs

/-- Whether a status of the transport means failure. -/
def NodeReply.isFailure (code : Nat) : Bool :=
  400 ≤ code && code < 600

/-- Whether a status of the transport ends a run: the request went wrong, but nobody failed. -/
def NodeReply.isOdd (code : Nat) : Bool :=
  code == 101 || (300 ≤ code && code < 400) || (600 ≤ code && code < 1000)

/-- The result that a reply holds. A reply without a result and without a refusal holds null. -/
def NodeReply.result (url : String) : NodeReply → Except Abort (Except NodeFault Json)
  | .unreachable => .ok (.error (.unreachable url))
  | .garbled => .ok (.error .garbled)
  | .status code =>
    if isOdd code then .error .oddStatus
    else .ok (.error (if isFailure code then .status code url else .garbled))
  | .body json =>
    match json.member? "error" with
    | some (.object members) => .ok (.error (NodeReply.fault (.object members)))
    | _ => .ok (.ok ((json.member? "result").getD .null))

end LendingClient
