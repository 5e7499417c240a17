import LendingClient.Ledger.Call

/-!
# Tasks

A task is a run of the client with the calls it makes left open: it is done, or breaks off, or makes
a call and goes on with the answer. A call may be raced against the caller's wish to cancel. What
the world outside does with calls is a `Handler`; the same task can be run against a node, a
script, or any other model of the ledger.
-/

namespace LendingClient

/-- A run with its calls left open. -/
inductive Task (α : Type) where
  /-- The run is over. -/
  | done (value : α)
  /-- The run breaks off, and nobody gets to see a value. -/
  | abort (why : Abort)
  /-- Make a call and wait for the answer. -/
  | ask (call : Call) (next : call.Answer → Task α)
  /-- Make a call and wait for the answer or for the wish to cancel, whichever comes first. -/
  | race (call : Call) (cancelled : Task α) (next : call.Answer → Task α)

namespace Task

variable {α β γ : Type}

/-- One task after the other. -/
def bind : Task α → (α → Task β) → Task β
  | .done value, f => f value
  | .abort why, _ => .abort why
  | .ask call next, f => .ask call fun answer => (next answer).bind f
  | .race call cancelled next, f =>
    .race call (cancelled.bind f) fun answer => (next answer).bind f

instance : Monad Task where
  pure := .done
  bind := bind

/-- To go on by ending changes nothing. -/
theorem bind_done (task : Task α) : task.bind .done = task := by
  induction task with
  | done => rfl
  | abort => rfl
  | ask call next ih => simp [bind, ih]
  | race call cancelled next ihCancelled ih => simp [bind, ihCancelled, ih]

/-- It does not matter how three tasks that follow each other are put together. -/
theorem bind_assoc (task : Task α) (f : α → Task β) (g : β → Task γ) :
    (task.bind f).bind g = task.bind fun value => (f value).bind g := by
  induction task with
  | done => rfl
  | abort => rfl
  | ask call next ih => simp [bind, ih]
  | race call cancelled next ihCancelled ih => simp [bind, ihCancelled, ih]

instance : LawfulMonad Task :=
  LawfulMonad.mk' Task bind_done (fun _ _ => rfl) bind_assoc

/-- Make a call. -/
def call (call : Call) : Task call.Answer :=
  .ask call .done

/-- Make a call unless the caller wishes to cancel; none if they did. -/
def callRacing (call : Call) : Task (Option call.Answer) :=
  .race call (.done none) fun answer => .done (some answer)

/-- A value, unless it could not be had. -/
def ofAbort : Except Abort α → Task α
  | .ok value => .done value
  | .error why => .abort why

end Task

/-- What the world outside does with calls. -/
structure Handler (m : Type → Type) where
  /-- Answers a call. -/
  ask : (call : Call) → ExceptT Abort m call.Answer
  /-- Answers a call unless the wish to cancel comes first. -/
  race : (call : Call) → ExceptT Abort m (Option call.Answer)

/-- Runs a task against a world outside. -/
def Task.run {m : Type → Type} [Monad m] {α : Type} (handler : Handler m) :
    Task α → ExceptT Abort m α
  | .done value => pure value
  | .abort why => throw why
  | .ask call next => do
    let answer ← handler.ask call
    (next answer).run handler
  | .race call cancelled next => do
    match ← handler.race call with
    | some answer => (next answer).run handler
    | none => cancelled.run handler

/-- A task that may end in an error. -/
abbrev Action (α : Type) := ExceptT Error Task α

/-- What can be worked out without a call: a value, an error, or nothing at all. -/
abbrev Plan (α : Type) := ExceptT Error (Except Abort) α

namespace Plan

variable {α : Type}

/-- A value, unless there is an error. -/
def ofExcept (value : Except Error α) : Plan α :=
  ExceptT.mk (.ok value)

/-- A value, unless the request is at fault. -/
def ofInput (value : Except InputFault α) : Plan α :=
  ofExcept (value.mapError .input)

/-- A value, unless it could not be had. -/
def ofAbort (value : Except Abort α) : Plan α :=
  ExceptT.mk (value.map .ok)

end Plan

namespace Action

variable {α : Type}

/-- What was worked out, as an action without a call. -/
def ofPlan (plan : Plan α) : Action α :=
  ExceptT.mk (Task.ofAbort plan.run)

instance : MonadLift Plan Action where
  monadLift := ofPlan

/-- The data of an account. -/
def account (address : Key) : Action (Option Bytes) :=
  ExceptT.mk (Task.call (.account address))

/-- The data of several accounts at once. -/
def accounts (queries : List Query) : Action (List (Option Bytes)) :=
  ExceptT.mk (Task.call (.accounts queries))

/-- The hash of the latest block. -/
def blockhash : Action Blockhash :=
  ExceptT.mk (Task.call .blockhash)

/-- Hand in a transaction. -/
def send (transaction : Transaction) : Action Signature :=
  ExceptT.mk (Task.call (.send transaction))

/-- Whether transactions bound to a block hash can still take effect. -/
def validity (blockhash : Blockhash) : Action Bool :=
  ExceptT.mk (Task.call (.validity blockhash))

/-- The time of the day. -/
def clock : Action Int64 :=
  ExceptT.lift (Task.call .clock)

/-- A pair of keys that nobody has. -/
def freshKey : Action KeyPair :=
  ExceptT.lift (Task.call .freshKey)

end Action

end LendingClient
