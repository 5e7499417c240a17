import LendingClient.Ledger.Read
import LendingClient.Operation.Basic

/-!
# The market

Most operations depend on the state of the program: its configuration and its counters, which are
read together. From them follow the mints, the token accounts of everybody involved and the days
whose totals an operation touches.
-/

namespace LendingClient

/-- The programs that look after the two tokens. -/
structure TokenPrograms where
  base : Key
  quote : Key
deriving DecidableEq

/-- The programs that look after the tokens unless others are named. -/
def TokenPrograms.usual : TokenPrograms :=
  ⟨Address.tokenProgram, Address.newTokenProgram⟩

/-- Where the program is, and how its tokens are handled. -/
structure Deployment where
  /-- The program's key. -/
  program : Key
  /-- The programs that look after the tokens. -/
  tokenPrograms : TokenPrograms := .usual
  /-- The decimal places of the tokens; without them they are read from the mints. -/
  scales : Option Scales := none
deriving DecidableEq

/-- The state that an operation is made for. -/
structure Market where
  deployment : Deployment
  config : MainState
  global : GlobalStats
  now : Int64

namespace Deployment

/-- Reads the state of the program. -/
def market (deployment : Deployment) (now : Int64) : Action Market := do
  let program := deployment.program
  let (config, global) ← Read.both (.mainState program) (.globalStats program)
  return ⟨deployment, config, global, now⟩

/-- Reads the state of the program, and the user's open loan together with it. -/
def marketAndLoan (deployment : Deployment) (owner : Key) (now : Int64) :
    Action (Market × UserLoan) := do
  let program := deployment.program
  let (config, global, loan) ←
    Read.allThree (.mainState program) (.globalStats program) (.openLoan program owner)
  return (⟨deployment, config, global, now⟩, loan)

end Deployment

namespace Market

/-- The key of the program. -/
def program (market : Market) : Key := market.deployment.program

/-- The mint of the base token. -/
def baseMint (market : Market) : Except InputFault Key :=
  match market.global.baseMint? with
  | some mint => .ok mint
  | none => .error .notStarted

/-- The mint of an asset. -/
def mint (market : Market) : Asset → Except InputFault Key
  | .base => market.baseMint
  | .quote => .ok market.config.quoteToken

/-- The owner of the program's vaults. -/
def vaultOwner (market : Market) : Key :=
  (Address.vaultOwner market.program).1

/-- An owner's account for a token that is handled like the base token. -/
def baseHolder (market : Market) (owner mint : Key) : Key :=
  Address.holder owner mint market.deployment.tokenPrograms.base

/-- An owner's account for the quote token. -/
def quoteHolder (market : Market) (owner : Key) : Key :=
  Address.holder owner market.config.quoteToken market.deployment.tokenPrograms.quote

/-- The decimal places of an asset: those that are given, or else those of its mint. -/
def decimals (market : Market) (asset : Asset) : Action UInt8 :=
  match market.deployment.scales with
  | some scales => return scales.of asset
  | none => do
    let mint ← Plan.ofInput (market.mint asset)
    (Read.decimals mint).perform

/-- The units of an asset that a decimal text stands for. -/
def units (market : Market) (asset : Asset) (input : String) : Action UInt64 := do
  let decimals ← market.decimals asset
  Plan.ofInput (Amount.parse input decimals)

end Market

end LendingClient
