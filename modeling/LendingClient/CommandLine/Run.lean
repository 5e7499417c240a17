import LendingClient.CommandLine.Invocation
import LendingClient.CommandLine.KeyFile
import LendingClient.CommandLine.Report
import LendingClient.Json.Writer

/-!
# Running a command

A command is a task like any other: it asks the world outside, and ends with something to show or
with a reason why not. Settings are checked before the signer's keys are read, and the keys are read
before anything is asked.
-/

namespace LendingClient

/-- The name of the program. -/
def programName : String := "mushi"

/-- The version of the program. -/
def version : String := "0.1.0"

/-- Why a command does not succeed. -/
inductive CommandFault where
  /-- The client's own error. -/
  | client (error : Error)
  /-- Nobody named the lending program. -/
  | noProgram
  /-- The decimal places of only one token are given. -/
  | halfPlaces
  /-- The signer's keys cannot be read. -/
  | keyFile (path : String) (fault : KeyFileFault)

/-- The fault in words. -/
def CommandFault.message : CommandFault → String
  | .client error => error.message
  | .noProgram => "program id required (--program-id or MUSHI_PROGRAM_ID)"
  | .halfPlaces => "set both --base-decimals and --quote-decimals, or neither"
  | .keyFile path fault => s!"failed to read keypair {path}: {fault.message}"

/-- What the user sees of a command: the status, and what is written to the two outputs. -/
structure Exit where
  status : UInt8
  output : String := ""
  errors : String := ""
deriving DecidableEq

/-- A command as it runs. It may ask the world outside. -/
abbrev Session (α : Type) := ExceptT CommandFault Task α

namespace Session

variable {α : Type}

/-- What the client does, as part of a command. -/
def ofAction (action : Action α) : Session α :=
  ExceptT.mk do return (← action.run).mapError .client

/-- A value, unless there is a fault. -/
def ofExcept (value : Except CommandFault α) : Session α :=
  ExceptT.mk (.done value)

instance : MonadLift Action Session where
  monadLift := ofAction

end Session

namespace Invocation

/-- The decimal places of both tokens, or of none. -/
def scales (invocation : Invocation) : Except CommandFault (Option Scales) :=
  match invocation.basePlaces, invocation.quotePlaces with
  | some base, some quote => .ok (some ⟨base, quote⟩)
  | none, none => .ok none
  | _, _ => .error .halfPlaces

/-- The settings that a command line stands for. -/
def settings (invocation : Invocation) : Except CommandFault Settings := do
  let some program := invocation.program | throw .noProgram
  let scales ← invocation.scales
  let settings : Settings :=
    { nodeUrl := invocation.nodeUrl, deployment := { program := program, scales := scales } }
  (settings.validate.mapError Error.settings).mapError .client
  return settings

/-- Where the keys are kept, with the home directory put in for a tilde. -/
def keyFile (invocation : Invocation) (home : Option String) : String :=
  match invocation.keyPath.toList, home with
  | '~' :: '/' :: rest, some home => home ++ "/" ++ String.ofList rest
  | _, _ => invocation.keyPath

/-- What the program is told. -/
def summary (invocation : Invocation) : String :=
  let program := (invocation.program.map (·.text)).getD "not set (MUSHI_PROGRAM_ID)"
  "Mushi lending program\n" ++ s!"Program ID: {program}\n" ++
    s!"RPC: {invocation.nodeUrl}\n" ++ s!"Version: {version}\n"

/-- A report as it is shown. -/
def shown (json : Json) : String :=
  json.pretty 0 ++ "\n"

/-- A day of the calendar. -/
def dayOf (time : Int64) : Action String :=
  (Plan.ofExcept (Calendar.dayText time.toInt) : Plan String)

/-- Shows the day of a timestamp. -/
def showDay (program : Option Key) (time : Option Int64) : Action Json := do
  let time ← match time with
    | some time => pure time
    | none => Action.clock
  let day ← dayOf time
  match program with
  | none => return Report.day time day none
  | some program =>
    let (address, _) ← Plan.ofAbort (Address.dailyStats program day)
    return Report.day time day (some address)

/-- Shows the counters. -/
def showGlobal (program : Key) : Action Json := do
  let stats ← (Read.globalStats program).perform
  return Report.global stats (← dayOf stats.lastLiquidationDate)

/-- Shows the totals of a day, which is today unless another is named. -/
def showBucket (program : Key) (day : Option String) : Action Json := do
  let day ← match day with
    | some day => pure day
    | none => dayOf (← Action.clock)
  let stats ← readDailyStats program day
  let (address, _) ← Plan.ofAbort (Address.dailyStats program day)
  return Report.bucket day address stats

/-- Carries an operation out, or shows what would be sent for it. -/
def perform (client : Client) (dryRun : Bool) (operation : Operation) (pair : KeyPair) :
    Action String := do
  if dryRun then return (← client.prepare operation pair.key).lines ++ "\n"
  else return shown (Report.receipt (← client.execute operation pair.signer))

/-- Turns to the lending program; `pair` is what the signer's key file holds. -/
def runProgram (settings : Settings) (dryRun : Bool) (pair : Except CommandFault KeyPair)
    (command : ProgramCommand) : Session String := do
  let program := settings.deployment.program
  match command with
  | .config => return shown (Report.config (← (Read.mainState program).perform))
  | .global => return shown (← showGlobal program)
  | .loan (some owner) =>
    return shown (Report.loan owner (← (Read.userLoan program owner).perform))
  | .loan none =>
    let owner := (← Session.ofExcept pair).key
    return shown (Report.loan owner (← (Read.userLoan program owner).perform))
  | .bucket day => return shown (← showBucket program day)
  | .perform operation =>
    perform (Client.ofSettings settings) dryRun operation (← Session.ofExcept pair)

/-- Runs the command; `pair` is what the signer's key file holds. -/
def run (invocation : Invocation) (pair : Except CommandFault KeyPair) : Session String := do
  match invocation.command with
  | .info => return invocation.summary
  | .day time => return shown (← showDay invocation.program time)
  | .ofProgram command =>
    runProgram (← Session.ofExcept invocation.settings) invocation.dryRun pair command

/-- The pair of keys that the signer's key file holds. -/
def pair (invocation : Invocation) (home : Option String)
    (content : Except FileFault String) : Except CommandFault KeyPair :=
  ((content.mapError .unreadable).bind KeyFile.read).mapError (.keyFile (invocation.keyFile home))

end Invocation

namespace Exit

/-- The status of a run that broke off. -/
def brokenOff : UInt8 := 101

/-- What the user sees of a command that was run. -/
def ofResult : Except Abort (Except CommandFault String) → Exit
  | .ok (.ok output) => { status := 0, output := output }
  | .ok (.error fault) => { status := 1, errors := s!"Error: {fault.message}\n" }
  | .error _ => { status := brokenOff }

/-- How the program is used. -/
def usage : String :=
  s!"Usage: {programName} [OPTIONS] <COMMAND>\n\nCommands:\n" ++
    String.join (Command.names.map fun name => s!"  {name}\n") ++ "\nOptions:\n" ++
    String.join (Invocation.level.choices.map fun choice => s!"  --{choice.name}\n")

/-- What the user sees if there is nothing to run. -/
def ofStop : CommandLine.Stop → Exit
  | .help => { status := 0, output := usage }
  | .version => { status := 0, output := s!"{programName} {version}\n" }
  | .misuse => { status := 2, errors := usage }

end Exit

end LendingClient
