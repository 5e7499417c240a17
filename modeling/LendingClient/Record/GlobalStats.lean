import LendingClient.Record.Basic

/-!
# The program's counters
-/

namespace LendingClient

/-- What the program counts over all its users. -/
structure GlobalStats where
  /-- The day up to which loans have been settled, as a timestamp. -/
  lastLiquidationDate : Int64
  totalBorrowed : UInt64
  totalCollateral : UInt64
  totalQuoteStaked : UInt64
  tokenSupply : UInt64
  lastPrice : UInt64
  /-- The mint of the base token; not set until trading is opened. -/
  baseToken : Key
  /-- Whether trading is open. -/
  started : Bool
deriving DecidableEq

namespace GlobalStats

open Layout in
/-- The fields in their order. -/
def layout : Layout GlobalStats :=
  (seq i64 <| seq u64 <| seq u64 <| seq u64 <| seq u64 <| seq u64 <| seq key flag).via
    (fun (date, borrowed, collateral, staked, supply, price, base, started) =>
      ⟨date, borrowed, collateral, staked, supply, price, base, started⟩)
    (fun s => (s.lastLiquidationDate, s.totalBorrowed, s.totalCollateral, s.totalQuoteStaked,
      s.tokenSupply, s.lastPrice, s.baseToken, s.started))

instance : Record GlobalStats where
  kind := .globalStats
  layout := layout

/-- The mint of the base token, once it exists. -/
def baseMint? (stats : GlobalStats) : Option Key :=
  stats.baseToken.set?

end GlobalStats

end LendingClient
