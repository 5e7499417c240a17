import LendingClient.Instruction.Kind
import LendingClient.Layout

/-!
# Arguments of instructions

What an instruction is given besides its accounts, and how it is laid out behind the discriminator.
Most instructions take an amount, or a number of days and an amount; those that set the program up
take records of their own.
-/

namespace LendingClient

/-- What the program is set up with. -/
structure SetUpArguments where
  feeReceiver : Key
  sellFee : UInt64
  buyFee : UInt64
  leverageFee : UInt64
deriving DecidableEq

/-- What a change of the configuration sets; what is left out stays as it is. -/
structure UpdateArguments where
  admin : Option Key := none
  feeReceiver : Option Key := none
  sellFee : Option UInt64 := none
  buyFee : Option UInt64 := none
  leverageFee : Option UInt64 := none
  quoteToken : Option Key := none
  stakeToken : Option Key := none
  stakeVaultProgram : Option Key := none
  stakeEnabled : Option Bool := none
  started : Option Bool := none
deriving DecidableEq

/-- What trading is opened with. -/
structure StartArguments where
  quoteAmount : UInt64
  tokenName : String
  tokenSymbol : String
  tokenUri : String
deriving DecidableEq

namespace Layout

/-- The arguments that set the program up. -/
def setUp : Layout SetUpArguments :=
  (seq key <| seq u64 <| seq u64 u64).via
    (fun (receiver, sell, buy, leverage) => ⟨receiver, sell, buy, leverage⟩)
    (fun args => (args.feeReceiver, args.sellFee, args.buyFee, args.leverageFee))

/-- The arguments of a change of the configuration. -/
def update : Layout UpdateArguments :=
  (seq (optional key) <| seq (optional key) <| seq (optional u64) <| seq (optional u64) <|
    seq (optional u64) <| seq (optional key) <| seq (optional key) <| seq (optional key) <|
    seq (optional flag) (optional flag)).via
    (fun (admin, receiver, sell, buy, leverage, quote, stake, vault, enabled, started) =>
      ⟨admin, receiver, sell, buy, leverage, quote, stake, vault, enabled, started⟩)
    (fun args => (args.admin, args.feeReceiver, args.sellFee, args.buyFee, args.leverageFee,
      args.quoteToken, args.stakeToken, args.stakeVaultProgram, args.stakeEnabled, args.started))

/-- The arguments that open trading. -/
def start : Layout StartArguments :=
  (seq u64 <| seq text <| seq text text).via
    (fun (amount, name, symbol, uri) => ⟨amount, name, symbol, uri⟩)
    (fun args => (args.quoteAmount, args.tokenName, args.tokenSymbol, args.tokenUri))

/-- An amount in units. -/
def amount : Layout UInt64 := u64

/-- A number of days and an amount in units. -/
def daysAmount : Layout (UInt64 × UInt64) := seq u64 u64

/-- Who sent a buyer, and an amount in units. -/
def referralAmount : Layout (Key × UInt64) := seq key u64

end Layout

/-- An instruction's data: its discriminator and its arguments. -/
def InstructionKind.encode {α : Type} (kind : InstructionKind) (layout : Layout α) (args : α) :
    Bytes :=
  kind.tag ++ layout.write args

end LendingClient
