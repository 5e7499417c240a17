import LendingClient.Ledger.Accounts
import LendingClient.Ledger.Task

/-!
# A ledger that follows a script

A model of the world outside in which everything is known: what each call will be answered, and how
long the answer will take. Time is counted in milliseconds and passes only while something is waited
for. Where the script has run out, the ledger answers as a quiet one would: accounts as they are
stored, a new block hash for each call, transactions taken and never heard of again.

Reads that are asked together run side by side. They are started in their order, and an answer that
is there at once and will not do keeps the rest from being started. After that everything stands
still until the next wait is over, and the reads whose answers have come are looked at, in their
order and in the opposite order by turns. The first answer that will not do ends them all.
-/

namespace LendingClient

/-- An answer that a script holds in store. -/
structure ScriptedAnswer (α : Type) where
  /-- The waits before the answer, one after the other. -/
  waits : List Nat := []
  /-- The answer. -/
  answer : Except Error α

/-- What the calls of a ledger will be answered, each kind of call in its own order. -/
structure Script where
  /-- Reads of accounts, which are answered from the store unless there is an error. -/
  accountReads : List (ScriptedAnswer Unit) := []
  blockhashes : List (ScriptedAnswer Blockhash) := []
  /-- Transactions handed in; without a signature they are answered with their own. -/
  sends : List (ScriptedAnswer (Option Signature)) := []
  statuses : List (ScriptedAnswer (Option Verdict)) := []
  validity : List (ScriptedAnswer Bool) := []
  simulations : List (ScriptedAnswer Simulation) := []

/-- A script with another one behind it. -/
def Script.append (script more : Script) : Script where
  accountReads := script.accountReads ++ more.accountReads
  blockhashes := script.blockhashes ++ more.blockhashes
  sends := script.sends ++ more.sends
  statuses := script.statuses ++ more.statuses
  validity := script.validity ++ more.validity
  simulations := script.simulations ++ more.simulations

/-- The state of a ledger that follows a script, and of the clocks around it. -/
structure ScriptedLedger where
  /-- The milliseconds that have passed. -/
  now : Nat := 0
  accounts : Accounts := {}
  script : Script := {}
  /-- How often the block hash was asked for. -/
  blockhashCalls : Nat := 0
  /-- What the next transaction that is taken will write. -/
  effects : List (Key × Bytes) := []
  /-- What the user's clock shows. -/
  clock : Int64 := 0
  /-- The seeds of fresh keys. -/
  freshSeed : Nat → Octets 32 := fun _ => Octets.filled 32 0
  /-- How many fresh keys were made. -/
  freshKeys : Nat := 0
  /-- When the user will wish to cancel. -/
  cancelAt : Option Nat := none
  /-- Every call so far and when it was made, the last one first. -/
  calls : List (Nat × Call) := []

namespace ScriptedLedger

/-- The next answer in store, or another one when there is none. -/
def nextAnswer {α : Type} (other : α) : List (ScriptedAnswer α) →
    ScriptedAnswer α × List (ScriptedAnswer α)
  | [] => (⟨[], .ok other⟩, [])
  | answer :: answers => (answer, answers)

/-- How long an answer takes. -/
def wait {α : Type} (answer : ScriptedAnswer α) : Nat :=
  answer.waits.foldl (· + ·) 0

/-- Notes a call. -/
def note (ledger : ScriptedLedger) (call : Call) : ScriptedLedger :=
  { ledger with calls := (ledger.now, call) :: ledger.calls }

/-- What becomes of a read of an account. -/
def readAnswer (ledger : ScriptedLedger) (address : Key) (answer : ScriptedAnswer Unit) :
    Except Error (Option Bytes) :=
  answer.answer.map fun _ => ledger.accounts.get? address

/-- The ledger after a transaction was answered; the first one that is taken has effects. -/
def afterSend (ledger : ScriptedLedger) : Except Error Signature → ScriptedLedger
  | .ok _ => { ledger with accounts := ledger.accounts.putAll ledger.effects, effects := [] }
  | .error _ => ledger

/-- The block hash of the `count`th call. -/
def quietBlockhash (count : Nat) : Blockhash :=
  Octets.filled 32 (UInt8.ofNat count)

/-- A transaction's own signature. -/
def ownSignature (transaction : Transaction) : Signature :=
  transaction.signature?.getD (Octets.filled 64 0)

/-- A read that was started together with others. -/
structure RunningRead where
  /-- The instants at which a wait is over, counted from the start, in their order. -/
  wakes : List Nat
  /-- What becomes of it: its data if it will do. -/
  outcome : Except Error (Option Bytes)

/-- The instants at which waits are over; waits of no time do not count. -/
def wakesFrom (start : Nat) : List Nat → List Nat
  | [] => []
  | wait :: waits =>
    if wait = 0 then wakesFrom start waits
    else (start + wait) :: wakesFrom (start + wait) waits

/-- When a read is over, counted from the start. -/
def RunningRead.finish (read : RunningRead) : Nat :=
  read.wakes.getLastD 0

/-- The error of a read, if it will not do. -/
def RunningRead.error? (read : RunningRead) : Option Error :=
  match read.outcome with
  | .ok _ => none
  | .error error => some error

/-- Starts reads in their order, up to one that will not do and is there at once. -/
def startReads (ledger : ScriptedLedger) : List Query → List RunningRead × ScriptedLedger
  | [] => ([], ledger)
  | query :: queries =>
    let (answer, answers) := nextAnswer () ledger.script.accountReads
    let noted := ledger.note (.account query.address)
    let ledger := { noted with script := { noted.script with accountReads := answers } }
    let outcome := do
      let data ← ledger.readAnswer query.address answer
      query.accept data
      return data
    let read : RunningRead := ⟨wakesFrom 0 answer.waits, outcome⟩
    if read.wakes.isEmpty && read.error?.isSome then ([read], ledger)
    else
      let (reads, ledger) := startReads ledger queries
      (read :: reads, ledger)

/-- The first error among reads that are over at an instant, looked at in their order or, in every
other round, in the opposite order. -/
def errorAt (reads : List RunningRead) (round instant : Nat) : Option Error :=
  let ready := reads.filter (·.finish = instant)
  (if round % 2 = 0 then ready else ready.reverse).findSome? (·.error?)

/-- Goes through the instants at which a wait is over: the first one at which a read turns out not to
do, and its error. -/
def firstError (reads : List RunningRead) : (round : Nat) → (instants : List Nat) →
    Option (Nat × Error)
  | _, [] => none
  | round, instant :: instants =>
    match errorAt reads round instant with
    | some error => some (instant, error)
    | none => firstError reads (round + 1) instants

/-- Adds an instant to instants in their order, unless it is among them. -/
def addInstant (instant : Nat) : List Nat → List Nat
  | [] => [instant]
  | other :: instants =>
    if instant < other then instant :: other :: instants
    else if instant = other then other :: instants
    else other :: addInstant instant instants

/-- The instants at which a wait of some read is over, each once and in their order, after the start
itself. -/
def instants (reads : List RunningRead) : List Nat :=
  0 :: (reads.flatMap (·.wakes)).foldr addInstant []

/-- How long reads that were started together take, and what becomes of them. -/
def together (reads : List RunningRead) : Nat × Except Error (List (Option Bytes)) :=
  match firstError reads 0 (instants reads) with
  | some (instant, error) => (instant, .error error)
  | none =>
    ((reads.map (·.finish)).foldl max 0, reads.mapM (·.outcome))

/-- Makes a call: how long the answer takes, the answer, and the ledger afterwards. No time has
passed yet. -/
def respond (ledger : ScriptedLedger) : (call : Call) → Nat × call.Answer × ScriptedLedger
  | .account address =>
    let ledger := ledger.note (.account address)
    let (answer, answers) := nextAnswer () ledger.script.accountReads
    (wait answer, ledger.readAnswer address answer,
      { ledger with script := { ledger.script with accountReads := answers } })
  | .accounts queries =>
    let (reads, ledger) := ledger.startReads queries
    let (duration, answer) := together reads
    (duration, answer, ledger)
  | .blockhash =>
    let ledger := ledger.note .blockhash
    let count := ledger.blockhashCalls + 1
    let (answer, answers) := nextAnswer (quietBlockhash count) ledger.script.blockhashes
    (wait answer, answer.answer,
      { ledger with blockhashCalls := count,
                    script := { ledger.script with blockhashes := answers } })
  | .send transaction =>
    let ledger := ledger.note (.send transaction)
    let (answer, answers) := nextAnswer none ledger.script.sends
    let signature := answer.answer.map (·.getD (ownSignature transaction))
    (wait answer, signature,
      { ledger with script := { ledger.script with sends := answers } }.afterSend signature)
  | .status signature =>
    let ledger := ledger.note (.status signature)
    let (answer, answers) := nextAnswer none ledger.script.statuses
    (wait answer, answer.answer,
      { ledger with script := { ledger.script with statuses := answers } })
  | .validity blockhash =>
    let ledger := ledger.note (.validity blockhash)
    let (answer, answers) := nextAnswer true ledger.script.validity
    (wait answer, answer.answer,
      { ledger with script := { ledger.script with validity := answers } })
  | .simulate transaction =>
    let ledger := ledger.note (.simulate transaction)
    let (answer, answers) := nextAnswer {} ledger.script.simulations
    (wait answer, answer.answer,
      { ledger with script := { ledger.script with simulations := answers } })
  | .sleep millis => (millis, (), ledger)
  | .clock => (0, ledger.clock, ledger)
  | .freshKey =>
    (0, .ofSeed (ledger.freshSeed ledger.freshKeys),
      { ledger with freshKeys := ledger.freshKeys + 1 })

/-- Makes a call and lets the time of its answer pass. -/
def answer (ledger : ScriptedLedger) (call : Call) : call.Answer × ScriptedLedger :=
  let (duration, answer, ledger) := ledger.respond call
  (answer, { ledger with now := ledger.now + duration })

/-- The instant of the wish to cancel, if it comes by then. -/
def cancelBy (ledger : ScriptedLedger) (instant : Nat) : Option Nat :=
  ledger.cancelAt.filter (· ≤ instant)

/-- Makes a call unless the wish to cancel is there already, and waits for its answer unless the wish
comes by then. -/
def answerRacing (ledger : ScriptedLedger) (call : Call) : Option call.Answer × ScriptedLedger :=
  if (ledger.cancelBy ledger.now).isSome then (none, ledger)
  else
    let (duration, answer, ledger) := ledger.respond call
    match ledger.cancelBy (ledger.now + duration) with
    | some instant => (none, { ledger with now := instant })
    | none => (some answer, { ledger with now := ledger.now + duration })

/-- A ledger that follows a script, as the world outside. -/
def handler : Handler (StateM ScriptedLedger) where
  ask call := do return (← modifyGet (answer · call))
  race call := do return (← modifyGet (answerRacing · call))

/-- Runs an action against the ledger. -/
def run {α : Type} (ledger : ScriptedLedger) (action : Action α) :
    Except Abort (Except Error α) × ScriptedLedger :=
  (Task.run handler action.run).run ledger

end ScriptedLedger

end LendingClient
