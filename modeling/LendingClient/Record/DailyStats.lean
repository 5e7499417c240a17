import LendingClient.Record.Basic

/-!
# Daily totals
-/

namespace LendingClient

/-- What matures on one day, over all loans. -/
structure DailyStats where
  /-- The start of the day, as a timestamp. -/
  date : Int64
  borrowed : UInt64
  collateral : UInt64
deriving DecidableEq

namespace DailyStats

open Layout in
/-- The fields in their order. -/
def layout : Layout DailyStats :=
  (seq i64 <| seq u64 u64).via
    (fun (date, borrowed, collateral) => ⟨date, borrowed, collateral⟩)
    (fun stats => (stats.date, stats.borrowed, stats.collateral))

instance : Record DailyStats where
  kind := .dailyStats
  layout := layout

end DailyStats

end LendingClient
