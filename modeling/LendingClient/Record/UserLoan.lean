import LendingClient.Record.Basic

/-!
# Loans
-/

namespace LendingClient

/-- The loan of one user. -/
structure UserLoan where
  /-- What was given as security, in units of the base token. -/
  collateral : UInt64
  /-- What is owed, in units of the quote token. -/
  borrowed : UInt64
  /-- When the loan matures, as a timestamp. -/
  endDate : Int64
  /-- The term of the loan. -/
  numberOfDays : UInt64
deriving DecidableEq

namespace UserLoan

open Layout in
/-- The fields in their order. -/
def layout : Layout UserLoan :=
  (seq u64 <| seq u64 <| seq i64 u64).via
    (fun (collateral, borrowed, endDate, days) => ⟨collateral, borrowed, endDate, days⟩)
    (fun loan => (loan.collateral, loan.borrowed, loan.endDate, loan.numberOfDays))

instance : Record UserLoan where
  kind := .userLoan
  layout := layout

/-- Whether something is owed. The record of a loan stays when the loan is gone. -/
def isOpen (loan : UserLoan) : Bool :=
  0 < loan.borrowed

end UserLoan

end LendingClient
