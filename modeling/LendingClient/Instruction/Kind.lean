import LendingClient.Discriminator

/-!
# The program's instructions

Every request to the program is one of these. Each has a name, from which its discriminator is made,
and a limit on the computing that is asked for it.
-/

namespace LendingClient

/-- The instructions of the program. -/
inductive InstructionKind where
  | initMainState
  | updateMainState
  | start
  | buy
  | buyWithReferral
  | sell
  | borrow
  | borrowMore
  | leverage
  | repay
  | removeCollateral
  | extendLoan
  | closePosition
  | flashClosePosition
  | liquidate
  | stake
  | unstake
deriving DecidableEq

namespace InstructionKind

/-- Every one of them. -/
def all : List InstructionKind :=
  [.initMainState, .updateMainState, .start, .buy, .buyWithReferral, .sell, .borrow, .borrowMore,
   .leverage, .repay, .removeCollateral, .extendLoan, .closePosition, .flashClosePosition,
   .liquidate, .stake, .unstake]

/-- The name by which the program knows an instruction. -/
def name : InstructionKind → String
  | .initMainState => "init_main_state"
  | .updateMainState => "update_main_state"
  | .start => "start"
  | .buy => "buy"
  | .buyWithReferral => "buy_with_referral"
  | .sell => "sell"
  | .borrow => "borrow"
  | .borrowMore => "borrow_more"
  | .leverage => "leverage"
  | .repay => "repay"
  | .removeCollateral => "remove_collateral"
  | .extendLoan => "extend_loan"
  | .closePosition => "close_position"
  | .flashClosePosition => "flash_close_position"
  | .liquidate => "liquidate"
  | .stake => "stake"
  | .unstake => "unstake"

/-- The instruction of a name. -/
def ofName? (name : String) : Option InstructionKind :=
  all.find? (·.name == name)

/-- The limit on computing that is asked for ahead of an instruction. -/
def computeUnits : InstructionKind → UInt32
  | .initMainState | .start | .buyWithReferral | .stake | .unstake => 300000
  | .updateMainState => 100000
  | _ => 150000

/-- The eight bytes that an instruction's data begins with. -/
def tag (kind : InstructionKind) : Bytes :=
  discriminator instructionSpace kind.name

end InstructionKind

end LendingClient
