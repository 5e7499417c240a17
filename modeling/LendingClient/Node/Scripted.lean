import LendingClient.Ledger.Accounts
import LendingClient.Node.Basic

/-!
# A node that follows a script

A model of a node in which everything is known: what each method will be answered, request by
request. A method whose answers have run out is unknown to the node, except that it always knows the
accounts that it holds. Waiting takes no time.
-/

namespace LendingClient

/-- An answer that a script holds in store. -/
inductive NodeAnswer where
  /-- A reply that does not depend on the request. -/
  | reply (reply : NodeReply)
  /-- The first signature of the transaction that is handed in, which thereby takes effect. -/
  | taken
  /-- None, because the run is interrupted. -/
  | interruption

/-- The state of a node that follows a script. -/
structure ScriptedNode where
  /-- The answers in store for each method. -/
  answers : List (String × List NodeAnswer) := []
  /-- What is answered when a method has no answer in store, if it is always the same. -/
  usual : Option NodeAnswer := none
  accounts : Accounts := {}
  /-- What the next transaction that is taken will write. -/
  effects : List (Key × Bytes) := []
  /-- What the user's clock shows. -/
  clock : Int64 := 0
  /-- The seeds of fresh keys. -/
  freshSeed : Nat → Octets 32 := fun _ => Octets.filled 32 0
  /-- How many fresh keys were made. -/
  freshKeys : Nat := 0
  /-- Every request so far, the last one first. -/
  requests : List NodeRequest := []

namespace ScriptedNode

/-- The text of the first signature of the transaction that a request carries. -/
def carriedSignature (params : List Json) : String :=
  let bytes := do
    let wire ← params.head?
    Base64.decode? (← wire.text?)
  Base58.encode ((bytes.getD []).drop 1 |>.take 64)

/-- A result as a node sends it. -/
def resultReply (result : Json) : NodeReply :=
  .body (.object [("result", result)])

/-- The data of an account as a node sends it. -/
def accountJson (data : Bytes) : Json :=
  .object [("data", .list [.text (Base64.encode data), .text "base64"]),
    ("executable", .bool false), ("lamports", .number 1), ("owner", .text Key.unset.text),
    ("rentEpoch", .number 0)]

/-- What a node answers about an account. -/
def accountReply (node : ScriptedNode) (params : List Json) : NodeReply :=
  let data := do
    let address ← params.head?
    node.accounts.get? (← Octets.ofText? 32 (← address.text?))
  resultReply (.object [("context", .object [("slot", .number 1)]),
    ("value", .ofOption accountJson data)])

/-- What a node answers when a method has no answer in store. -/
def otherReply (node : ScriptedNode) (request : NodeRequest) : NodeReply :=
  if request.method = "getAccountInfo" then node.accountReply request.params
  else .body (.object [("error",
    .object [("code", .number (-32601)), ("message", .text "Method not found")])])

/-- Takes the next answer in store for a method. -/
def takeAnswer (method : String) :
    List (String × List NodeAnswer) → Option NodeAnswer × List (String × List NodeAnswer)
  | [] => (none, [])
  | (name, answers) :: rest =>
    if name = method then (answers.head?, (name, answers.tail) :: rest)
    else
      let (answer, rest) := takeAnswer method rest
      (answer, (name, answers) :: rest)

/-- The reply to a request, none if the run is interrupted, and the node afterwards. -/
def respond (node : ScriptedNode) (request : NodeRequest) : Option NodeReply × ScriptedNode :=
  let (answer, answers) := takeAnswer request.method node.answers
  let node := { node with answers := answers, requests := request :: node.requests }
  match answer.or node.usual with
  | none => (some (node.otherReply request), node)
  | some (.reply reply) => (some reply, node)
  | some .taken =>
    (some (resultReply (.text (carriedSignature request.params))),
      { node with accounts := node.accounts.putAll node.effects, effects := [] })
  | some .interruption => (none, node)

/-- A node that follows a script, at an address. -/
def node (url : String) (commitment : Commitment) : Node (StateM ScriptedNode) where
  url := url
  commitment := commitment
  post request := do
    match ← modifyGet (respond · request) with
    | some reply => return reply
    | none => throw .interrupted
  sleep _ := return ()
  clock := return (← get).clock
  freshSeed := modifyGet fun node =>
    (node.freshSeed node.freshKeys, { node with freshKeys := node.freshKeys + 1 })

end ScriptedNode

end LendingClient
