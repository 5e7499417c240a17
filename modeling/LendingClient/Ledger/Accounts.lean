import LendingClient.Key

/-!
# Accounts of a ledger

What a ledger holds: the data of the accounts that exist.
-/

namespace LendingClient

/-- The accounts that exist, each with its data. -/
structure Accounts where
  entries : List (Key × Bytes) := []

namespace Accounts

/-- The data of an account, if it exists. -/
def get? (accounts : Accounts) (address : Key) : Option Bytes :=
  accounts.entries.lookup address

/-- The accounts without one. -/
def erase (accounts : Accounts) (address : Key) : Accounts :=
  ⟨accounts.entries.filter (·.1 ≠ address)⟩

/-- The accounts with the data of one written. -/
def put (accounts : Accounts) (address : Key) (data : Bytes) : Accounts :=
  ⟨(address, data) :: (accounts.erase address).entries⟩

/-- The accounts with the data of several written, the later over the earlier. -/
def putAll (accounts : Accounts) (written : List (Key × Bytes)) : Accounts :=
  written.foldl (fun accounts (address, data) => accounts.put address data) accounts

/-- An account that was written has the data that was written. -/
@[simp] theorem get?_put_self (accounts : Accounts) (address : Key) (data : Bytes) :
    (accounts.put address data).get? address = some data := by
  simp [get?, put]

/-- Writing an account leaves the others as they were. -/
theorem get?_put_of_ne (accounts : Accounts) {address other : Key} (data : Bytes)
    (h : other ≠ address) : (accounts.put address data).get? other = accounts.get? other := by
  have hhead : (other == address) = false := by simpa using h
  simp only [get?, put, erase, List.lookup_cons, hhead]
  induction accounts.entries with
  | nil => rfl
  | cons entry entries ih =>
    obtain ⟨key, value⟩ := entry
    by_cases hkey : key = address
    · subst hkey
      simpa [List.lookup_cons, hhead] using ih
    · by_cases hother : other = key
      · subst hother
        simp [h]
      · have hne : (other == key) = false := by simpa using hother
        simpa [hkey, List.lookup_cons, hne] using ih

end Accounts

end LendingClient
