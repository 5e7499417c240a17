import LendingClient.Amount.Fee
import LendingClient.Record.Basic

/-!
# The program's configuration

Who runs the program, what it charges and which tokens it deals in.
-/

namespace LendingClient

/-- The configuration of the program. -/
structure MainState where
  /-- Who may change the configuration. -/
  admin : Key
  /-- Who gets the fees. -/
  feeReceiver : Key
  /-- The fee on buying, in hundredths of a percent. -/
  buyFee : UInt64
  /-- The fee on selling, in hundredths of a percent. -/
  sellFee : UInt64
  /-- The fee on buying with leverage, in hundredths of a percent. -/
  leverageFee : UInt64
  /-- The mint of the token that the base token is paid with. -/
  quoteToken : Key
  /-- The mint of the token that stands for stakes. -/
  stakeToken : Key
  /-- The program that keeps the stakes. -/
  stakeVaultProgram : Key
  /-- Whether staking is on. -/
  stakeEnabled : Bool
  /-- Whether trading is open. -/
  started : Bool
deriving DecidableEq

namespace MainState

open Layout in
/-- The fields in their order. -/
def layout : Layout MainState :=
  (seq key <| seq key <| seq u64 <| seq u64 <| seq u64 <| seq key <| seq key <| seq key <|
    seq flag flag).via
    (fun (admin, receiver, buy, sell, leverage, quote, stake, vault, enabled, started) =>
      ⟨admin, receiver, buy, sell, leverage, quote, stake, vault, enabled, started⟩)
    (fun s => (s.admin, s.feeReceiver, s.buyFee, s.sellFee, s.leverageFee, s.quoteToken,
      s.stakeToken, s.stakeVaultProgram, s.stakeEnabled, s.started))

instance : Record MainState where
  kind := .mainState
  layout := layout

/-- The stake token and the program that keeps the stakes, when both are set. -/
def staking? (state : MainState) : Option (Key × Key) := do
  let token ← state.stakeToken.set?
  let program ← state.stakeVaultProgram.set?
  return (token, program)

end MainState

end LendingClient
