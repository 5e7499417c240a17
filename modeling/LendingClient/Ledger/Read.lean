import LendingClient.Address.Program
import LendingClient.Ledger.Task
import LendingClient.Record.DailyStats
import LendingClient.Record.GlobalStats
import LendingClient.Record.MainState
import LendingClient.Record.Mint
import LendingClient.Record.UserLoan

/-!
# Reading records

A read says whose account is asked for and what its data means. An account that is not there is no
error by itself; whether it is one depends on the read. Data that cannot be read always is.
-/

namespace LendingClient

/-- An account to be read, and what its data means. -/
structure Read (α : Type) where
  address : Key
  interpret : Option Bytes → Except Error α

namespace Read

variable {α β γ : Type}

/-- The record of an account, or none if there is no such account. -/
def optional (α : Type) [Record α] (address : Key) : Read (Option α) where
  address := address
  interpret
    | none => .ok none
    | some data => (Record.decode α address data).map some

/-- The record of an account that has to be there. -/
def required (α : Type) [Record α] (address : Key) : Read α where
  address := address
  interpret
    | none => .error (.notFound (Record.kind α) address)
    | some data => Record.decode α address data

/-- The program's configuration. -/
def mainState (program : Key) : Read MainState :=
  required MainState (Address.mainState program).1

/-- The program's counters. -/
def globalStats (program : Key) : Read GlobalStats :=
  required GlobalStats (Address.globalStats program).1

/-- The record of a user's loan. -/
def userLoan (program owner : Key) : Read (Option UserLoan) :=
  optional UserLoan (Address.userLoan program owner).1

/-- A user's open loan. A record with nothing owed counts as none. -/
def openLoan (program owner : Key) : Read UserLoan where
  address := (Address.userLoan program owner).1
  interpret data := do
    let address := (Address.userLoan program owner).1
    let loan ← (required UserLoan address).interpret data
    if loan.isOpen then return loan else throw (.notFound .userLoan address)

/-- The decimal places of a token. -/
def decimals (mint : Key) : Read UInt8 where
  address := mint
  interpret
    | none => .error (.notFound .mint mint)
    | some data => (Mint.decode mint data).map (·.decimals)

/-- The read as one of several. -/
def query (read : Read α) : Query where
  address := read.address
  accept data := (read.interpret data).map fun _ => ()

/-- Asks for the account. -/
def perform (read : Read α) : Action α := do
  let data ← Action.account read.address
  Plan.ofExcept (read.interpret data)

/-- Asks for two accounts at once. -/
def both (a : Read α) (b : Read β) : Action (α × β) := do
  let data ← Action.accounts [a.query, b.query]
  let first ← Plan.ofExcept (a.interpret (data.getD 0 none))
  let second ← Plan.ofExcept (b.interpret (data.getD 1 none))
  return (first, second)

/-- Asks for three accounts at once. -/
def allThree (a : Read α) (b : Read β) (c : Read γ) : Action (α × β × γ) := do
  let data ← Action.accounts [a.query, b.query, c.query]
  let first ← Plan.ofExcept (a.interpret (data.getD 0 none))
  let second ← Plan.ofExcept (b.interpret (data.getD 1 none))
  let third ← Plan.ofExcept (c.interpret (data.getD 2 none))
  return (first, second, third)

end Read

/-- The totals of the day that a text names, if there are any. -/
def readDailyStats (program : Key) (day : String) : Action (Option DailyStats) := do
  let (address, _) ← Plan.ofAbort (Address.dailyStats program day)
  (Read.optional DailyStats address).perform

end LendingClient
