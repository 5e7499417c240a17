import LendingClient.Error.Input
import LendingClient.Layout
import LendingClient.Rejection.Basic

/-!
# Errors

Everything that can keep a request from succeeding, as causes. `Error.message` has the words, and
`Error.isRetryable` tells the errors after which a caller may try again from those that would only
come back. An `Abort` is no error: it ends the whole run, and no caller gets to see it.
-/

namespace LendingClient

/-- The kinds of account that the client reads. -/
inductive AccountKind where
  | mainState
  | globalStats
  | userLoan
  | dailyStats
  | mint
deriving DecidableEq

/-- The program's name for a kind of account. -/
def AccountKind.name : AccountKind → String
  | .mainState => "MainState"
  | .globalStats => "GlobalStats"
  | .userLoan => "UserLoan"
  | .dailyStats => "DailyStats"
  | .mint => "Mint"

/-- Why the data of a token mint cannot be read. -/
inductive MintFault where
  /-- The data is no mint. -/
  | invalid
  /-- The mint was never set up. -/
  | uninitialized
deriving DecidableEq

/-- The fault in words. -/
def MintFault.message : MintFault → String
  | .invalid => "An account's data contents was invalid"
  | .uninitialized => "An attempt to operate on an account that hasn't been initialized"

/-- Why an account's data cannot be read. -/
inductive DecodeFault where
  /-- Too short to say what it is. -/
  | short (length : Nat)
  /-- The data of some other kind of account. -/
  | otherKind
  /-- The fields are not in their layout. -/
  | fields (fault : LayoutFault)
  /-- The data of a mint is at fault. -/
  | mint (fault : MintFault)
deriving DecidableEq

/-- The fault in words. -/
def DecodeFault.message : DecodeFault → String
  | .short length => s!"{length} bytes is shorter than a discriminator"
  | .otherKind => "discriminator mismatch"
  | .fields fault => fault.message
  | .mint fault => fault.message

/-- Why a transaction cannot be signed. -/
inductive SignFault where
  /-- The signer itself failed. -/
  | signer (reason : String)
  /-- The batch names another payer than the signer. -/
  | foreignPayer (payer signer : Key)
  /-- The instructions name more accounts than a message can hold. -/
  | tooManyAccounts
  /-- Nobody is there to sign for a key. -/
  | noSigner (key : Key)
  /-- A fault in words alone. -/
  | reported (reason : String)
deriving DecidableEq

/-- The fault in words. -/
def SignFault.message : SignFault → String
  | .signer reason => s!"custom error: {reason}"
  | .foreignPayer payer holder =>
    s!"batch was built for {payer.text} but signer is {holder.text}"
  | .tooManyAccounts => "account index overflowed during compilation"
  | .noSigner key => s!"no signer for {key.text}"
  | .reported reason => reason

/-- What is wrong with the settings of a client. -/
inductive SettingsFault where
  /-- The address of the node is blank. -/
  | noNode
  /-- The program's key is not set. -/
  | noProgram
  /-- Confirmation may not poll, or may not strike. -/
  | noPolls
  /-- A fault in words alone. -/
  | reported (reason : String)
deriving DecidableEq

/-- The fault in words. -/
def SettingsFault.message : SettingsFault → String
  | .noNode => "rpc_url is empty"
  | .noProgram => "program_id is not set"
  | .noPolls => "max_polls and expiry_strikes must be at least 1"
  | .reported reason => reason

/-- Why polling ended without a verdict. -/
inductive ExpiryReason where
  /-- The block hash can no longer be used. -/
  | blockhashExpired
  /-- The polls are used up. -/
  | pollBudgetExhausted
  /-- The caller gave up. -/
  | cancelled
deriving DecidableEq

/-- The reason in words. -/
def ExpiryReason.message : ExpiryReason → String
  | .blockhashExpired => "blockhash expired before confirmation"
  | .pollBudgetExhausted => "no status within the polling budget"
  | .cancelled => "cancelled while polling"

/-- What came of running a refused transaction once more without effect. -/
structure Simulation where
  /-- What the run failed with. -/
  error : Option String := none
  /-- What the programs wrote down. -/
  logs : List String := []
  /-- How much computing the run took. -/
  units : Option UInt64 := none
deriving DecidableEq

/-- Why a transaction failed. The simulation is advice and never changes the verdict. -/
structure FailureReport where
  /-- The verdict. -/
  rejection : Rejection
  /-- The simulation, if it could be had. -/
  simulation : Option Simulation
  /-- Why it could not be had. -/
  simulationError : Option String
deriving DecidableEq

/-- The verdict in words, with the simulation's error and last log line if there are any. -/
def FailureReport.message (report : FailureReport) : String :=
  let simulated := report.simulation.bind (·.error)
  let lastLog := report.simulation.bind (·.logs.getLast?)
  report.rejection.message ++
    (simulated.map fun error => s!"; simulation: {error}").getD "" ++
    (lastLog.map fun line => s!"; last log: {line}").getD ""

/-- Why a request did not succeed. -/
inductive Error where
  /-- The request is at fault. -/
  | input (fault : InputFault)
  /-- A time outside the calendar. -/
  | timestamp (time : Int)
  /-- There is no such account. -/
  | notFound (kind : AccountKind) (address : Key)
  /-- The account's data cannot be read. -/
  | decode (kind : AccountKind) (address : Key) (fault : DecodeFault)
  /-- The transaction cannot be signed. -/
  | sign (fault : SignFault)
  /-- The ledger could not be asked, or did not answer. -/
  | ledger (reason : String)
  /-- The ledger refused the transaction. -/
  | failed (signature : Signature) (report : FailureReport)
  /-- No verdict came in time. -/
  | expired (reason : ExpiryReason)
  /-- The settings are at fault. -/
  | settings (fault : SettingsFault)
deriving DecidableEq

namespace Error

/-- The error in words. -/
def message : Error → String
  | .input fault => s!"invalid input: {fault.message}"
  | .timestamp time => s!"timestamp {time} is outside 1970-01-01..=9999-12-31"
  | .notFound kind address => s!"{kind.name} account not found at {address.text}"
  | .decode kind address fault =>
    s!"failed to decode {kind.name} at {address.text}: {fault.message}"
  | .sign fault => s!"signing failed: {fault.message}"
  | .ledger reason => s!"RPC client error: {reason}"
  | .failed signature report => s!"transaction {signature.text} failed: {report.message}"
  | .expired reason => s!"transaction expired: {reason.message}"
  | .settings fault => s!"configuration error: {fault.message}"

/-- Whether the caller may build, sign and send again. -/
def isRetryable : Error → Bool
  | .ledger _ | .expired _ => true
  | _ => false

end Error

/-- What ends a run on the spot. -/
inductive Abort where
  /-- A seed of an address is longer than 32 bytes. -/
  | seedTooLong
  /-- An address has more than fifteen seeds. -/
  | tooManySeeds
  /-- The rest of a loan's term does not fit 64 bits. -/
  | termOverflow
  /-- An instruction has more accounts or data than can be counted, or there are too many of them. -/
  | messageTooLong
  /-- The ledger answered a question about one signature with no status at all. -/
  | noStatus
  /-- A node answered with a status of the transport that is neither success nor failure. -/
  | oddStatus
  /-- The run was interrupted where it could not be cancelled. -/
  | interrupted
deriving DecidableEq

end LendingClient
