import LendingClient.CommandLine.Words
import LendingClient.Operation.Basic
import LendingClient.Text.Whole

/-!
# Invocations

What a command line asks for: settings that hold for every command, and one command. Settings come
from options or, where those are left out, from environment variables.
-/

namespace LendingClient

namespace CommandLine

/-- The key that a word stands for. -/
def readKey? (word : String) : Option Key :=
  Octets.ofText? 32 word

/-- The truth value that a word stands for. -/
def readBool? (word : String) : Option Bool :=
  if word = "true" then some true else if word = "false" then some false else none

/-- The number of 64 bits without a sign that a word stands for. -/
def readU64? (word : String) : Option UInt64 :=
  (Text.readUnsigned (UInt64.size - 1) word.toList).toOption.map UInt64.ofNat

/-- The number of 64 bits with a sign that a word stands for. -/
def readI64? (word : String) : Option Int64 :=
  (Text.readSigned (Nat.pow 2 63) (Nat.pow 2 63 - 1) word.toList).toOption.map Int64.ofInt

/-- The number of decimal places that a word stands for. -/
def readPlaces? (word : String) : Option UInt8 := do
  let value ← (Text.readSigned (Nat.pow 2 63) (Nat.pow 2 63 - 1) word.toList).toOption
  if 0 ≤ value ∧ value < 256 then return UInt8.ofNat value.toNat else none

/-- Any word will do. -/
def anyWord (_ : String) : Bool := true

/-- A word that stands for a value will do. -/
def wordOf {α : Type} (read : String → Option α) (word : String) : Bool :=
  (read word).isSome

/-- An option with a value. -/
def choice (name : String) (accepts : String → Bool) : Choice :=
  { name := name, accepts := some accepts }

end CommandLine

open CommandLine

/-- What the user wants to know of the lending program, or wants it to do. -/
inductive ProgramCommand where
  /-- Show the configuration. -/
  | config
  /-- Show the counters. -/
  | global
  /-- Show a loan, the signer's unless another owner is named. -/
  | loan (owner : Option Key)
  /-- Show the totals of a day, of today unless another is named. -/
  | bucket (day : Option String)
  /-- Carry an operation out. -/
  | perform (operation : Operation)

/-- What the user wants done. -/
inductive Command where
  /-- Show the settings. -/
  | info
  /-- Show the day of a timestamp, or of this instant. -/
  | day (time : Option Int64)
  /-- Turn to the lending program. -/
  | ofProgram (command : ProgramCommand)

/-- An operation as a command. -/
def Command.perform (operation : Operation) : Command :=
  .ofProgram (.perform operation)

/-- Everything that a command line says. -/
structure Invocation where
  nodeUrl : String
  program : Option Key
  /-- Where the signer's pair of keys is kept. -/
  keyPath : String
  basePlaces : Option UInt8
  quotePlaces : Option UInt8
  /-- Show what would be sent, and send nothing. -/
  dryRun : Bool
  command : Command

namespace Command

/-- The options of the `update-config` command. -/
def updateChoices : List Choice :=
  [choice "admin" (wordOf readKey?), choice "fee-receiver" (wordOf readKey?),
    choice "buy-fee" anyWord, choice "sell-fee" anyWord, choice "leverage-fee" anyWord,
    choice "quote-token" (wordOf readKey?), choice "stake-token" (wordOf readKey?),
    choice "stake-vault-program" (wordOf readKey?), choice "stake-enabled" (wordOf readBool?),
    choice "started" (wordOf readBool?)]

/-- The configuration change of the `update-config` command. -/
def readChange (found : Found) : ConfigChange where
  admin := (found.value? "admin").bind readKey?
  feeReceiver := (found.value? "fee-receiver").bind readKey?
  buyFee := found.value? "buy-fee"
  sellFee := found.value? "sell-fee"
  leverageFee := found.value? "leverage-fee"
  quoteToken := (found.value? "quote-token").bind readKey?
  stakeToken := (found.value? "stake-token").bind readKey?
  stakeVaultProgram := (found.value? "stake-vault-program").bind readKey?
  stakeEnabled := (found.value? "stake-enabled").bind readBool?
  started := (found.value? "started").bind readBool?

/-- An amount as an operand. -/
def amount : Operand := { name := "amount" }

/-- A term as an operand. -/
def term : Operand := { name := "days", accepts := wordOf readU64? }

/-- A command with operands that all are words. -/
def ofAmount (make : String → Operation) : Level × (Found → Option Command) :=
  ({ operands := [amount] }, fun found => do
    return .perform (make (← found.value? "amount")))

/-- A command for an amount and a term. -/
def ofAmountAndTerm (make : String → UInt64 → Operation) : Level × (Found → Option Command) :=
  ({ operands := [amount, term] }, fun found => do
    return .perform (make (← found.value? "amount") (← readU64? (← found.value? "days"))))

/-- A command that stands alone. -/
def alone (command : Command) : Level × (Found → Option Command) :=
  ({}, fun _ => some command)

/-- A command whose only operand may be left out. -/
def ofOptional {α : Type} (name : String) (read : String → Option α)
    (make : Option α → Command) : Level × (Found → Option Command) :=
  ({ operands := [{ name := name, accepts := wordOf read, required := false }] },
    fun found => some (make ((found.value? name).bind read)))

/-- The `initialize` command. -/
def setUp : Level × (Found → Option Command) :=
  ({ choices := ["buy-fee", "sell-fee", "leverage-fee"].map fun name =>
      { choice name anyWord with required := true }
     operands := ["fee-receiver", "quote-mint"].map fun name =>
      { name := name, accepts := wordOf readKey? } },
    fun found => do
      return .perform (.setUp (← readKey? (← found.value? "fee-receiver"))
        (← readKey? (← found.value? "quote-mint")) (← found.value? "buy-fee")
        (← found.value? "sell-fee") (← found.value? "leverage-fee")))

/-- The `start` command. -/
def start : Level × (Found → Option Command) :=
  ({ operands := ["amount", "name", "symbol", "uri"].map fun name => { name := name } },
    fun found => do
      return .perform (.start (← found.value? "amount") (← found.value? "name")
        (← found.value? "symbol") (← found.value? "uri")))

/-- The `buy` command. -/
def buy : Level × (Found → Option Command) :=
  ({ choices := [choice "referral" (wordOf readKey?)], operands := [amount] },
    fun found => do
      return .perform (.buy (← found.value? "amount")
        ((found.value? "referral").bind readKey?)))

/-- The commands by their names: what may follow them, and what they ask for. -/
def table : List (String × Level × (Found → Option Command)) :=
  [("info", alone .info),
    ("day", ofOptional "timestamp" readI64? .day),
    ("config", alone (.ofProgram .config)),
    ("global", alone (.ofProgram .global)),
    ("loan", ofOptional "owner" readKey? (.ofProgram ∘ .loan)),
    ("bucket", ofOptional "day" some (.ofProgram ∘ .bucket)),
    ("initialize", setUp),
    ("update-config", { choices := updateChoices }, fun found =>
      some (.perform (.update (readChange found)))),
    ("start", start),
    ("buy", buy),
    ("sell", ofAmount .sell),
    ("borrow", ofAmountAndTerm .borrow),
    ("borrow-more", ofAmount .borrowMore),
    ("leverage", ofAmountAndTerm .leverage),
    ("extend-loan", { operands := [term] }, fun found => do
      return .perform (.extendLoan (← readU64? (← found.value? "days")))),
    ("repay", ofAmount .repay),
    ("remove-collateral", ofAmount .removeCollateral),
    ("close-position", ofAmount .closePosition),
    ("flash-close-position", alone (.perform .flashClosePosition)),
    ("liquidate", alone (.perform .liquidate)),
    ("stake", ofAmount .stake),
    ("unstake", ofAmount .unstake)]

/-- The command that asks for help. -/
def help : String := "help"

/-- The names of all commands. -/
def names : List String :=
  table.map (·.1) ++ [help]

/-- Reads what follows a command. -/
def read (environment : String → Option String) (name : String) (words : List String) :
    Except Stop Command := do
  match table.lookup name with
  | none =>
    match words with
    | [] => throw .help
    | [other] => if names.contains other then throw .help else throw .misuse
    | _ => throw .misuse
  | some (level, make) =>
    let (found, _) ← level.read words
    match make (← level.complete environment found) with
    | some command => return command
    | none => throw .misuse

end Command

namespace Invocation

/-- The node that is asked unless another one is named. -/
def usualUrl : String := "https://api.mainnet-beta.solana.com"

/-- Where the pair of keys is kept unless another place is named. -/
def usualKeyPath : String := "~/.config/solana/id.json"

/-- What may stand in front of the command. -/
def level : Level where
  choices :=
    [{ choice "rpc-url" anyWord with letter := some 'r', fallback := some "MUSHI_RPC_URL" },
      { choice "program-id" (wordOf readKey?) with
        letter := some 'p', fallback := some "MUSHI_PROGRAM_ID" },
      { choice "keypair" anyWord with letter := some 'k', fallback := some "MUSHI_KEYPAIR" },
      { choice "base-decimals" (wordOf readPlaces?) with fallback := some "MUSHI_BASE_DECIMALS" },
      { choice "quote-decimals" (wordOf readPlaces?) with
        fallback := some "MUSHI_QUOTE_DECIMALS" },
      { name := "dry-run" }]
  commands := Command.names
  hasVersion := true

/-- Reads a command line. The command and what follows it are checked before the last setting in
front of it is. -/
def read (environment : String → Option String) (words : List String) :
    Except Stop Invocation := do
  match ← level.read words with
  | (_, none) => throw .misuse
  | (found, some (name, words)) =>
    let command ← Command.read environment name words
    let found ← level.complete environment found
    return {
      nodeUrl := (found.value? "rpc-url").getD usualUrl
      program := (found.value? "program-id").bind readKey?
      keyPath := (found.value? "keypair").getD usualKeyPath
      basePlaces := (found.value? "base-decimals").bind readPlaces?
      quotePlaces := (found.value? "quote-decimals").bind readPlaces?
      dryRun := (found.value? "dry-run").isSome
      command := command }

end Invocation

end LendingClient
