import LendingClient.Node.Question

/-!
# Nodes

A node is a place to post requests to, together with the clocks and the dice around the client.
Everything that a run of the client asks for becomes a question to it. Requests that come too often
are repeated after a while. A run may be interrupted while it waits; that ends it, unless the
interruption is what it raced against.
-/

namespace LendingClient

/-- A place to post requests to, and the world around it. Each action may be interrupted. -/
structure Node (m : Type → Type) where
  /-- The node's address. -/
  url : String
  /-- How sure answers have to be. -/
  commitment : Commitment
  /-- Posts a request and waits for the reply. -/
  post : NodeRequest → ExceptT Abort m NodeReply
  /-- Lets some milliseconds pass. -/
  sleep : Nat → ExceptT Abort m Unit
  /-- The time of the day. -/
  clock : m Int64
  /-- A seed that nobody has. -/
  freshSeed : m (Octets 32)

namespace Node

variable {m : Type → Type} [Monad m] {α : Type}

/-- The status of a request that came too soon after others. -/
def tooMany : Nat := 429

/-- How often a request that came too soon is repeated. -/
def mostRepeats : Nat := 5

/-- The milliseconds before a request is repeated. -/
def pause : Nat := 500

/-- Posts a request and repeats it while it comes too soon. -/
def deliver (node : Node m) (request : NodeRequest) :
    (repeats : Nat) → ExceptT Abort m (Except NodeFault Json)
  | 0 => do ExceptT.mk (pure ((← node.post request).result node.url))
  | repeats + 1 => do
    match ← node.post request with
    | .status code =>
      if code = tooMany then
        node.sleep pause
        node.deliver request repeats
      else ExceptT.mk (pure ((NodeReply.status code).result node.url))
    | reply => ExceptT.mk (pure (reply.result node.url))

/-- Asks a question. -/
def query (node : Node m) (question : Question α) : ExceptT Abort m (Except Error α) := do
  let answer ← node.deliver question.request mostRepeats
  ExceptT.mk (pure (question.interpret answer).run)

/-- Asks for the data of accounts, one after the other up to the first that will not do. -/
def queryAll (node : Node m) : List Query → ExceptT Abort m (Except Error (List (Option Bytes)))
  | [] => return .ok []
  | query :: queries => do
    match ← node.query (.account node.commitment query.address) with
    | .error error => return .error error
    | .ok data =>
      match query.accept data with
      | .error error => return .error error
      | .ok () => return (← node.queryAll queries).map (data :: ·)

/-- Answers a call. -/
def ask (node : Node m) : (call : Call) → ExceptT Abort m call.Answer
  | .account address => node.query (.account node.commitment address)
  | .accounts queries => node.queryAll queries
  | .blockhash => node.query (.blockhash node.commitment)
  | .send transaction => node.query (.send node.commitment transaction)
  | .status signature => node.query (.status node.commitment signature)
  | .validity blockhash => node.query (.validity node.commitment blockhash)
  | .simulate transaction => node.query (.simulate node.commitment transaction)
  | .sleep millis => node.sleep millis
  | .clock => ExceptT.lift node.clock
  | .freshKey => return .ofSeed (← ExceptT.lift node.freshSeed)

/-- Answers a call unless an interruption comes first. -/
def race (node : Node m) (call : Call) : ExceptT Abort m (Option call.Answer) :=
  tryCatch (do return some (← node.ask call)) fun why =>
    if why = .interrupted then return none else throw why

/-- A node as the world outside. -/
def handler (node : Node m) : Handler m where
  ask := node.ask
  race := node.race

end Node

end LendingClient
