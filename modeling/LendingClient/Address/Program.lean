import LendingClient.Address.Basic
import LendingClient.Address.Known
import LendingClient.Calendar

/-!
# The accounts of the program

Where each record of the program, each of its token vaults and each account of a token holder lies.
All of it is computed from keys and dates; nothing is asked of the ledger.
-/

namespace LendingClient.Address

/-- The program's configuration. -/
def mainState (program : Key) : Key × UInt8 :=
  find program [Text.utf8 "main_state"]

/-- The program's counters. -/
def globalStats (program : Key) : Key × UInt8 :=
  find program [Text.utf8 "global_stats"]

/-- The owner of the program's token vaults. -/
def vaultOwner (program : Key) : Key × UInt8 :=
  find program [Text.utf8 "vault"]

/-- The loan of one user. -/
def userLoan (program owner : Key) : Key × UInt8 :=
  find program [Text.utf8 "user-loan", owner.bytes]

/-- The totals of the day that a text names. The text may be anything, even too long for a seed. -/
def dailyStats (program : Key) (day : String) : Except Abort (Key × UInt8) :=
  derive program [Text.utf8 "daily-stats", Text.utf8 day]

/-- The totals of the day that an instant lies in. -/
def dailyStatsAt (program : Key) (time : Int) : Except Error (Except Abort (Key × UInt8)) :=
  (Calendar.dayText time).map (dailyStats program)

/-- The account of `owner` for the token of `mint`, which `tokenProgram` looks after. -/
def holder (owner mint tokenProgram : Key) : Key :=
  (find holderProgram [owner.bytes, tokenProgram.bytes, mint.bytes]).1

/-- The program's vault for the token of `mint`. -/
def vault (program mint tokenProgram : Key) : Key :=
  holder (vaultOwner program).1 mint tokenProgram

/-- The name of the token of `mint`. -/
def metadata (mint : Key) : Key :=
  (find metadataProgram [Text.utf8 "metadata", metadataProgram.bytes, mint.bytes]).1

/-- The state of a program that keeps stakes. -/
def stakeVaultState (stakeVaultProgram : Key) : Key :=
  (find stakeVaultProgram [Text.utf8 "main_state"]).1

/-- The owner of the token accounts of a program that keeps stakes. -/
def stakeVaultOwner (stakeVaultProgram : Key) : Key :=
  (find stakeVaultProgram [Text.utf8 "vault_owner"]).1

end LendingClient.Address
