import LendingClient.Client.Basic
import LendingClient.Json.Basic

/-!
# Reports

What is shown for each command, as JSON with the members in the order of their names. Amounts and
times are plain numbers, fees are in percent, keys and signatures are texts.
-/

namespace LendingClient.Report

/-- A number without a sign. -/
def amount (value : UInt64) : Json :=
  .ofNat value.toNat

/-- A number with a sign. -/
def time (value : Int64) : Json :=
  .number value.toInt

/-- A key or a signature. -/
def name {n : Nat} (value : Octets n) : Json :=
  .text value.text

/-- A day, none for a time outside the calendar. -/
def day? (value : Int64) : Json :=
  match Calendar.dayText value.toInt with
  | .ok day => .text day
  | .error _ => .null

/-- A day, and the address of its totals if the program is known. -/
def day (time : Int64) (day : String) (address : Option Key) : Json :=
  let address := address.map fun address => ("daily_stats", name address)
  .object (address.toList ++ [("day", .text day), ("timestamp", Report.time time)])

/-- The configuration. -/
def config (state : MainState) : Json :=
  .object [("admin", name state.admin),
    ("buy_fee", .text (Fee.percent state.buyFee)),
    ("fee_receiver", name state.feeReceiver),
    ("leverage_fee", .text (Fee.percent state.leverageFee)),
    ("quote_token", name state.quoteToken),
    ("sell_fee", .text (Fee.percent state.sellFee)),
    ("stake_enabled", .bool state.stakeEnabled),
    ("stake_token", name state.stakeToken),
    ("stake_vault_program", name state.stakeVaultProgram),
    ("started", .bool state.started)]

/-- The counters; the day is that of the last liquidation. -/
def global (stats : GlobalStats) (day : String) : Json :=
  .object [("base_token", name stats.baseToken),
    ("last_liquidation_date", time stats.lastLiquidationDate),
    ("last_liquidation_day", .text day),
    ("last_price", amount stats.lastPrice),
    ("started", .bool stats.started),
    ("token_supply", amount stats.tokenSupply),
    ("total_borrowed", amount stats.totalBorrowed),
    ("total_collateral", amount stats.totalCollateral),
    ("total_quote_staked", amount stats.totalQuoteStaked)]

/-- The terms of a loan. -/
def terms (loan : UserLoan) : Json :=
  .object [("borrowed", amount loan.borrowed),
    ("collateral", amount loan.collateral),
    ("end_date", time loan.endDate),
    ("end_day", day? loan.endDate),
    ("number_of_days", amount loan.numberOfDays)]

/-- The loan of a user. -/
def loan (owner : Key) (loan : Option UserLoan) : Json :=
  .object [("loan", .ofOption terms loan), ("owner", name owner)]

/-- The totals of a day. -/
def totals (stats : DailyStats) : Json :=
  .object [("borrowed", amount stats.borrowed),
    ("collateral", amount stats.collateral),
    ("date", time stats.date)]

/-- The account of a day's totals, and what it holds. -/
def bucket (day : String) (address : Key) (stats : Option DailyStats) : Json :=
  .object [("address", name address), ("bucket", .ofOption totals stats), ("day", .text day)]

/-- What an operation came to. -/
def receipt (receipt : Receipt) : Json :=
  .object [("created_mint", .ofOption name receipt.createdMint),
    ("days", .list (receipt.days.map .text)),
    ("instruction", .text receipt.kind.name),
    ("loan", .ofOption terms receipt.loan),
    ("signature", name receipt.signature)]

end LendingClient.Report
