import LendingClient.Address.Program
import LendingClient.Proofs.Calendar.DayText

/-!
# Derived addresses

An address can be derived from at most fifteen seeds of at most 32 bytes each. All addresses of the
program's records and of token accounts keep to that, whatever keys they are made from; so do those
of the totals of a day in the calendar. What is derived is the digest of the greatest further byte
that leads off the curve.
-/

namespace LendingClient.Address

/-- A bump will do if its candidate does not lie on the curve, and then the candidate is what is
found. -/
private theorem offCurve?_eq_some_iff {program : Key} {seeds : List Bytes} {bump : UInt8}
    {found : Key × UInt8} : offCurve? program seeds bump = some found ↔
      Edwards.onCurve (candidate program seeds bump) = false ∧
        found = (candidate program seeds bump, bump) := by
  unfold offCurve?
  dsimp only
  cases Edwards.onCurve (candidate program seeds bump) <;> simp [eq_comm]

/-- The address that is found is the digest for the further byte that is found. -/
theorem find_candidate (program : Key) (seeds : List Bytes) :
    (find program seeds).1 = candidate program seeds (find program seeds).2 := by
  unfold find
  cases hfound : (List.range 255).findSome? fun step =>
      offCurve? program seeds (255 - UInt8.ofNat step) with
  | none => rfl
  | some found =>
    obtain ⟨step, -, hstep⟩ := List.exists_of_findSome?_eq_some hfound
    obtain ⟨-, rfl⟩ := offCurve?_eq_some_iff.mp hstep
    rfl

/-- The digest of a further byte is found first among those off the curve, counting down from 255. It
may lie on the curve only if all of them do. -/
def First (program : Key) (seeds : List Bytes) (found : Key × UInt8) : Prop :=
  found.1 = candidate program seeds found.2 ∧
    ∀ bump, 0 < bump → Edwards.onCurve (candidate program seeds bump) = false →
      Edwards.onCurve found.1 = false ∧ bump ≤ found.2

/-- Of the steps down from 255, one that leads off the curve is not passed over. -/
theorem exists_step_le {program : Key} {seeds : List Bytes} {step : Nat} {other : Key × UInt8}
    (hstep : step < 255)
    (h : offCurve? program seeds (255 - UInt8.ofNat step) = some other) :
    ∃ first ≤ step, offCurve? program seeds (255 - UInt8.ofNat first) =
      some (find program seeds) := by
  have hmem : step ∈ List.range 255 := List.mem_range.mpr hstep
  unfold find
  cases hfound : (List.range 255).findSome? fun step =>
      offCurve? program seeds (255 - UInt8.ofNat step) with
  | none =>
    have hnone := List.findSome?_eq_none_iff.mp hfound step hmem
    rw [h] at hnone
    cases hnone
  | some found =>
    obtain ⟨before, first, after, hsplit, hfirst, hpassed⟩ := List.findSome?_eq_some_iff.mp hfound
    refine ⟨first, ?_, hfirst⟩
    have hsorted := List.pairwise_lt_range (n := 255)
    rw [hsplit] at hmem hsorted
    rcases List.mem_append.mp hmem with hbefore | hrest
    · rw [hpassed step hbefore] at h
      cases h
    · rcases List.mem_cons.mp hrest with rfl | hafter
      · exact Nat.le_refl step
      · exact Nat.le_of_lt (List.rel_of_pairwise_cons (List.pairwise_append.mp hsorted).2.1 hafter)

/-- Each step down from 255 takes one off the further byte. -/
theorem toNat_step {step : Nat} (h : step < 255) :
    ((255 : UInt8) - UInt8.ofNat step).toNat = 255 - step := by
  have hstep : (UInt8.ofNat step).toNat = step := UInt8.toNat_ofNat_of_lt' (h.trans (by decide))
  have hle : UInt8.ofNat step ≤ 255 := by
    rw [UInt8.le_iff_toNat_le, hstep]
    exact Nat.le_of_lt h
  rw [UInt8.toNat_sub_of_le _ _ hle, hstep]
  rfl

/-- What is found is the candidate of the first bump that will do. -/
theorem first_find (program : Key) (seeds : List Bytes) :
    First program seeds (find program seeds) := by
  refine ⟨find_candidate program seeds, fun bump hbump hoff => ?_⟩
  have hpos : 0 < bump.toNat := UInt8.lt_iff_toNat_lt.mp hbump
  have hlt : bump.toNat < 256 := bump.toNat_lt
  have hstep : (255 : UInt8) - UInt8.ofNat (255 - bump.toNat) = bump := by
    apply UInt8.toNat_inj.mp
    rw [toNat_step (by omega)]
    omega
  have hoffers := offCurve?_eq_some_iff.mpr ⟨hoff, rfl⟩
  rw [← hstep] at hoffers
  obtain ⟨first, hle, hfirst⟩ := exists_step_le (by omega) hoffers
  obtain ⟨hfound, hpair⟩ := offCurve?_eq_some_iff.mp hfirst
  rw [hpair]
  refine ⟨hfound, UInt8.le_iff_toNat_le.mpr ?_⟩
  rw [toNat_step (by omega)]
  omega

/-- Seeds that an address can be derived from. -/
def Within (seeds : List Bytes) : Prop :=
  seeds.length ≤ mostSeeds ∧ ∀ seed ∈ seeds, seed.length ≤ longestSeed

/-- An address is derived from seeds that are neither too long nor too many. -/
theorem derive_of_within {program : Key} {seeds : List Bytes} (h : Within seeds) :
    derive program seeds = .ok (find program seeds) := by
  obtain ⟨hcount, hlength⟩ := h
  have hlong : ¬ seeds.any (longestSeed < ·.length) = true := by
    rw [List.any_eq_true]
    rintro ⟨seed, hmem, hseed⟩
    have := hlength seed hmem
    have := of_decide_eq_true hseed
    omega
  rw [derive, if_neg (by omega), if_neg hlong]

/-- An address alone is derived from seeds that are neither too long nor too many. -/
theorem exists_derive_of_within {program address : Key} {seeds : List Bytes} (h : Within seeds)
    (haddress : address = (find program seeds).1) :
    ∃ bump, derive program seeds = .ok (address, bump) := by
  have hfound (found : Key × UInt8) (hderive : derive program seeds = .ok found)
      (haddress : address = found.1) : ∃ bump, derive program seeds = .ok (address, bump) := by
    subst haddress
    exact ⟨found.2, hderive⟩
  exact hfound (find program seeds) (derive_of_within h) haddress

/-- No address is derived if one of the seeds is too long. -/
theorem derive_of_tooLong {program : Key} {seeds : List Bytes} {seed : Bytes}
    (hcount : seeds.length ≤ mostSeeds) (hmem : seed ∈ seeds)
    (hlong : longestSeed < seed.length) : derive program seeds = .error .seedTooLong := by
  have hany : seeds.any (longestSeed < ·.length) = true :=
    List.any_eq_true.mpr ⟨seed, hmem, decide_eq_true hlong⟩
  rw [derive, if_neg (by omega), if_pos hany]

private theorem within_one {first : Bytes} (hfirst : first.length ≤ longestSeed) : Within [first] :=
  ⟨Nat.le_of_ble_eq_true rfl, by simpa using hfirst⟩

private theorem within_two {first second : Bytes} (hfirst : first.length ≤ longestSeed)
    (hsecond : second.length ≤ longestSeed) : Within [first, second] :=
  ⟨Nat.le_of_ble_eq_true rfl, by simpa using ⟨hfirst, hsecond⟩⟩

private theorem within_three {first second third : Bytes} (hfirst : first.length ≤ longestSeed)
    (hsecond : second.length ≤ longestSeed) (hthird : third.length ≤ longestSeed) :
    Within [first, second, third] :=
  ⟨Nat.le_of_ble_eq_true rfl, by simpa using ⟨hfirst, hsecond, hthird⟩⟩

/-- The totals of a day have an address if the text of the day fits a seed. -/
theorem dailyStats_of_length {program : Key} {day : String}
    (h : (Text.utf8 day).length ≤ longestSeed) :
    dailyStats program day = .ok (find program [Text.utf8 "daily-stats", Text.utf8 day]) :=
  derive_of_within (within_two (by decide) h)

/-- The totals of a day have no address if the text of the day is too long for a seed. -/
theorem dailyStats_of_tooLong {program : Key} {day : String}
    (h : longestSeed < (Text.utf8 day).length) :
    dailyStats program day = .error .seedTooLong :=
  derive_of_tooLong (Nat.le_of_ble_eq_true rfl) (List.mem_cons_of_mem _ List.mem_cons_self) h

-- As equations of functions, since comparing a single address with its definition means searching
-- for its further byte.
private theorem holder_eq : holder = fun owner mint tokenProgram =>
    (find holderProgram [owner.bytes, tokenProgram.bytes, mint.bytes]).1 :=
  rfl

private theorem metadata_eq : metadata = fun mint =>
    (find metadataProgram [Text.utf8 "metadata", metadataProgram.bytes, mint.bytes]).1 :=
  rfl

private theorem stakeVaultState_eq : stakeVaultState = fun stakeVaultProgram =>
    (find stakeVaultProgram [Text.utf8 "main_state"]).1 :=
  rfl

private theorem stakeVaultOwner_eq : stakeVaultOwner = fun stakeVaultProgram =>
    (find stakeVaultProgram [Text.utf8 "vault_owner"]).1 :=
  rfl

/-- The totals of a day in the calendar have an address. -/
theorem exists_dailyStats_of_dayText (program : Key) {time : Int} {day : String}
    (h : Calendar.dayText time = .ok day) : ∃ found, dailyStats program day = .ok found := by
  have hlength : (Text.utf8 day).length ≤ longestSeed :=
    Nat.le_trans (Nat.le_of_eq (Calendar.length_dayText h)) (by decide)
  exact ⟨_, dailyStats_of_length hlength⟩

/-- The addresses that are worked out for a program, one of its users and a token are those that are
derived from seeds within the limits. -/
structure DerivedWithin (program owner mint tokenProgram : Key) : Prop where
  mainState : derive program [Text.utf8 "main_state"] = .ok (Address.mainState program)
  globalStats : derive program [Text.utf8 "global_stats"] = .ok (Address.globalStats program)
  vaultOwner : derive program [Text.utf8 "vault"] = .ok (Address.vaultOwner program)
  userLoan : derive program [Text.utf8 "user-loan", owner.bytes] =
    .ok (Address.userLoan program owner)
  holder : ∃ bump, derive holderProgram [owner.bytes, tokenProgram.bytes, mint.bytes] =
    .ok (Address.holder owner mint tokenProgram, bump)
  metadata : ∃ bump, derive metadataProgram
    [Text.utf8 "metadata", metadataProgram.bytes, mint.bytes] = .ok (Address.metadata mint, bump)
  stakeVaultState : ∃ bump, derive program [Text.utf8 "main_state"] =
    .ok (Address.stakeVaultState program, bump)
  stakeVaultOwner : ∃ bump, derive program [Text.utf8 "vault_owner"] =
    .ok (Address.stakeVaultOwner program, bump)

/-- The seeds of every derived address are within the limits, whatever keys they are made from. -/
theorem derivedWithin (program owner mint tokenProgram : Key) :
    DerivedWithin program owner mint tokenProgram := by
  have hkey (key : Key) : key.bytes.length ≤ longestSeed := Nat.le_of_eq key.length_bytes
  exact {
    mainState := derive_of_within (within_one (by decide))
    globalStats := derive_of_within (within_one (by decide))
    vaultOwner := derive_of_within (within_one (by decide))
    userLoan := derive_of_within (within_two (by decide) (hkey owner))
    holder := exists_derive_of_within (within_three (hkey owner) (hkey tokenProgram) (hkey mint))
      (congrFun (congrFun (congrFun holder_eq owner) mint) tokenProgram)
    metadata := exists_derive_of_within
      (within_three (by decide) (hkey metadataProgram) (hkey mint)) (congrFun metadata_eq mint)
    stakeVaultState := exists_derive_of_within (within_one (by decide))
      (congrFun stakeVaultState_eq program)
    stakeVaultOwner := exists_derive_of_within (within_one (by decide))
      (congrFun stakeVaultOwner_eq program) }

end LendingClient.Address
