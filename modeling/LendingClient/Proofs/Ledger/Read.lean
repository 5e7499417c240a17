import LendingClient.Proofs.Address
import LendingClient.Proofs.Run.Snapshot

/-!
# What reads find in the accounts

A read finds a record if the account is there and its data is the record's. What each read comes to
is told here in terms of the accounts alone. The account with the totals of a day is found by the
text of the day, if that is no longer than a seed.
-/

namespace LendingClient

/-- The data of an account is that of a record. -/
def Accounts.Holds {α : Type} [Record α] (accounts : Accounts) (address : Key) (record : α) : Prop :=
  ∃ data, accounts.get? address = some data ∧ Record.read? α data = .ok record

/-- The data of an account is that of a mint whose amounts have some decimal places. -/
def Accounts.HoldsMint (accounts : Accounts) (address : Key) (decimals : UInt8) : Prop :=
  ∃ data mint, accounts.get? address = some data ∧ Mint.read data = .ok mint ∧
    mint.decimals = decimals

namespace Read

variable {α : Type} [Record α] {accounts : Accounts} {address : Key}

/-- Of an account that has to be there, a record is read if the account holds it. -/
theorem value?_required_eq_some_iff {record : α} :
    (required α address).value? accounts = some record ↔ accounts.Holds address record := by
  unfold value? Accounts.Holds
  rw [toOption_eq_some_iff]
  change (required α address).interpret (accounts.get? address) = _ ↔ _
  cases accounts.get? address with
  | none => exact ⟨nofun, nofun⟩
  | some data =>
    change (Record.read? α data).mapError _ = _ ↔ _
    rw [mapError_eq_ok_iff]
    simp

/-- Of an account that may be missing, no record is read if there is no such account. -/
theorem value?_optional_eq_none_iff :
    (optional α address).value? accounts = some none ↔ accounts.get? address = none := by
  unfold value?
  rw [toOption_eq_some_iff]
  change (optional α address).interpret (accounts.get? address) = _ ↔ _
  cases accounts.get? address with
  | none => exact ⟨fun _ => rfl, fun _ => rfl⟩
  | some data =>
    change ((Record.decode α address data).map some) = _ ↔ _
    rw [map_eq_ok_iff]
    simp

/-- An open loan is read if the account holds it and something is owed. -/
theorem value?_openLoan_eq_some_iff {program owner : Key} {loan : UserLoan} :
    (openLoan program owner).value? accounts = some loan ↔
      accounts.Holds (Address.userLoan program owner).1 loan ∧ 0 < loan.borrowed := by
  rw [← value?_required_eq_some_iff]
  unfold value?
  rw [toOption_eq_some_iff, toOption_eq_some_iff]
  change ((required UserLoan (Address.userLoan program owner).1).interpret _ >>= _) = _ ↔ _
  rw [bind_eq_ok_iff]
  constructor
  · rintro ⟨found, hfound, hrest⟩
    split at hrest
    · rename_i hopen
      cases hrest
      exact ⟨hfound, by simpa [UserLoan.isOpen] using hopen⟩
    · cases hrest
  · rintro ⟨hfound, hopen⟩
    refine ⟨loan, hfound, ?_⟩
    have hisOpen : loan.isOpen = true := by simpa [UserLoan.isOpen] using hopen
    rw [if_pos hisOpen]
    rfl

/-- Decimal places are read if the account is that of a mint with so many. -/
theorem value?_decimals_eq_some_iff {mint : Key} {places : UInt8} :
    (decimals mint).value? accounts = some places ↔ accounts.HoldsMint mint places := by
  unfold value? Accounts.HoldsMint
  rw [toOption_eq_some_iff]
  change (decimals mint).interpret (accounts.get? mint) = _ ↔ _
  cases accounts.get? mint with
  | none => exact ⟨nofun, nofun⟩
  | some data =>
    change ((Mint.read data).mapError _).map _ = _ ↔ _
    simp only [map_eq_ok_iff, mapError_eq_ok_iff, Option.some.injEq]
    constructor
    · rintro ⟨found, hfound, hplaces⟩
      exact ⟨data, found, rfl, hfound, hplaces⟩
    · rintro ⟨_, found, rfl, hfound, hplaces⟩
      exact ⟨found, hfound, hplaces⟩

end Read

variable {program : Key} {day : String}

/-- The totals of a day are those of the record at its address. -/
theorem readDailyStats_eq {found : Key × UInt8} (h : Address.dailyStats program day = .ok found) :
    readDailyStats program day = (Read.optional DailyStats found.1).perform := by
  unfold readDailyStats
  rw [h]
  rfl

/-- Nothing is asked for the totals of a day whose text is too long for a seed. -/
theorem run_readDailyStats_of_tooLong (h : Address.longestSeed < day.utf8ByteSize) :
    (readDailyStats program day).run = .abort .seedTooLong := by
  have haddress : Address.dailyStats program day = .error .seedTooLong :=
    Address.dailyStats_of_tooLong h
  unfold readDailyStats
  rw [haddress]
  rfl

end LendingClient
