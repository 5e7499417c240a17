import LendingClient.Proofs.Address

/-!
# Addresses of different records

The bytes that are hashed for an address are the seeds, the further byte, the program and the
marker, without anything between them. All but the seeds take a fixed number of bytes, so they can
be told apart from the end. The seeds of the records have lengths of their own for each kind, and
within a kind they differ by the owner or by the day. So records share an address only where the
digest takes two different byte strings to the same value.
-/

namespace LendingClient.Address

/-- A record of the program. The totals of a day are named by any instant of the day. -/
inductive Place
  | mainState
  | globalStats
  | vaultOwner
  | userLoan (owner : Key)
  | dailyStats (time : Int) (hcovers : Calendar.Covers time)

namespace Place

/-- The address of a record and its further byte. -/
def derived (program : Key) : Place → Except Error (Except Abort (Key × UInt8))
  | mainState => .ok (.ok (Address.mainState program))
  | globalStats => .ok (.ok (Address.globalStats program))
  | vaultOwner => .ok (.ok (Address.vaultOwner program))
  | userLoan owner => .ok (.ok (Address.userLoan program owner))
  | dailyStats time _ => Address.dailyStatsAt program time

/-- Two names of one record: the same kind, and the same owner or day. -/
def Same : Place → Place → Prop
  | mainState, mainState => True
  | globalStats, globalStats => True
  | vaultOwner, vaultOwner => True
  | userLoan owner, userLoan other => owner = other
  | dailyStats time _, dailyStats other _ =>
    time / Calendar.secondsPerDay = other / Calendar.secondsPerDay
  | _, _ => False

/-- The seeds that the address of a record is derived from. -/
inductive Seeded : Place → List Bytes → Prop
  | mainState : Seeded mainState [Text.utf8 "main_state"]
  | globalStats : Seeded globalStats [Text.utf8 "global_stats"]
  | vaultOwner : Seeded vaultOwner [Text.utf8 "vault"]
  | userLoan (owner : Key) : Seeded (userLoan owner) [Text.utf8 "user-loan", owner.bytes]
  | dailyStats {time : Int} {day : String} (hcovers : Calendar.Covers time)
      (hday : Calendar.dayText time = .ok day) :
      Seeded (dailyStats time hcovers) [Text.utf8 "daily-stats", Text.utf8 day]

/-- How many bytes the seeds of a record take. No two kinds agree in it. -/
def width : Place → Nat
  | mainState => 10
  | globalStats => 12
  | vaultOwner => 5
  | userLoan _ => 41
  | dailyStats _ _ => 21

variable {place other : Place} {program : Key} {seeds seeds' : List Bytes}

private theorem exists_seeded (place : Place) : ∃ seeds, place.Seeded seeds := by
  cases place with
  | mainState => exact ⟨_, .mainState⟩
  | globalStats => exact ⟨_, .globalStats⟩
  | vaultOwner => exact ⟨_, .vaultOwner⟩
  | userLoan owner => exact ⟨_, .userLoan owner⟩
  | dailyStats time hcovers =>
    obtain ⟨day, hday⟩ := Calendar.exists_dayText hcovers
    exact ⟨_, .dailyStats hcovers hday⟩

/-- The address of a record is found from its seeds. -/
theorem Seeded.derived_eq (h : place.Seeded seeds) (program : Key) :
    place.derived program = .ok (.ok (find program seeds)) := by
  cases h with
  | mainState => rw [derived, Address.mainState]
  | globalStats => rw [derived, Address.globalStats]
  | vaultOwner => rw [derived, Address.vaultOwner]
  | userLoan owner => rw [derived, Address.userLoan]
  | dailyStats hcovers hday =>
    have hlength := (Nat.le_of_eq (Calendar.length_dayText hday)).trans
      (by decide : 10 ≤ longestSeed)
    rw [derived, dailyStatsAt, hday, Except.map, dailyStats_of_length hlength]

/-- The seeds of a place have as many bytes together as its width says. -/
private theorem Seeded.length_flatten (h : place.Seeded seeds) :
    seeds.flatten.length = place.width := by
  cases h with
  | mainState => rfl
  | globalStats => rfl
  | vaultOwner => rfl
  | userLoan owner =>
    have hlabel : (Text.utf8 "user-loan").length = 9 := rfl
    simp only [List.flatten_cons, List.flatten_nil, List.length_append, List.length_nil, hlabel,
      owner.length_bytes, width]
  | dailyStats hcovers hday =>
    have hlabel : (Text.utf8 "daily-stats").length = 11 := rfl
    simp only [List.flatten_cons, List.flatten_nil, List.length_append, List.length_nil, hlabel,
      Calendar.length_dayText hday, width]

/-- Two names of one record have the same seeds. -/
theorem Seeded.eq_of_same (h : place.Seeded seeds) (h' : other.Seeded seeds')
    (hsame : place.Same other) : seeds = seeds' := by
  -- Records of two kinds are not the same one.
  cases h <;> cases h' <;> first | rfl | exact False.elim hsame | skip
  case userLoan.userLoan owner owner' =>
    have howner : owner = owner' := hsame
    rw [howner]
  case dailyStats.dailyStats hday _ _ _ hday' =>
    rw [(Calendar.dayText_inj hday hday').mpr hsame]

/-- What follows a label tells the seeds apart. -/
theorem bytes_of_flatten {label rest rest' : Bytes}
    (h : [label, rest].flatten = [label, rest'].flatten) : rest = rest' := by
  simpa using h

/-- Seeds with the same bytes are those of one record. -/
theorem Seeded.same_of_flatten (h : place.Seeded seeds) (h' : other.Seeded seeds')
    (hbytes : seeds.flatten = seeds'.flatten) : place.Same other := by
  have hwidth : place.width = other.width := by
    rw [← h.length_flatten, ← h'.length_flatten, hbytes]
  -- No two kinds have the same width.
  cases h <;> cases h' <;> first | trivial | cases hwidth
  case userLoan.userLoan owner owner' => exact Octets.ext_bytes (bytes_of_flatten hbytes)
  case dailyStats.dailyStats hday _ _ _ hday' =>
    exact (Calendar.dayText_inj hday hday').mp (Text.utf8_inj (bytes_of_flatten hbytes))

end Place

/-- Program, further byte and seeds can be read back from what is hashed. -/
theorem preimage_inj {program other : Key} {seeds seeds' : List Bytes} {bump bump' : UInt8}
    (h : preimage program seeds bump = preimage other seeds' bump') :
    program = other ∧ seeds.flatten = seeds'.flatten := by
  have hlength : (bump :: program.bytes).length = (bump' :: other.bytes).length := by
    rw [List.length_cons, List.length_cons, program.length_bytes, other.length_bytes]
  obtain ⟨hseeds, hrest⟩ := List.append_inj' (List.append_cancel_right h) hlength
  exact ⟨Octets.ext_bytes (List.cons.inj hrest).2, hseeds⟩

/-- Where records of programs share an address they are one record of one program, or what is hashed
for them is different and has the same digest. -/
theorem Place.Seeded.same_or_digest {program program' : Key} {place place' : Place}
    {seeds seeds' : List Bytes} (h : place.Seeded seeds) (h' : place'.Seeded seeds')
    (haddress : (find program seeds).1 = (find program' seeds').1) :
    program = program' ∧ place.Same place' ∨
      preimage program seeds (find program seeds).2 ≠
          preimage program' seeds' (find program' seeds').2 ∧
        Sha256.digest (preimage program seeds (find program seeds).2) =
          Sha256.digest (preimage program' seeds' (find program' seeds').2) := by
  by_cases hhashed : preimage program seeds (find program seeds).2 =
      preimage program' seeds' (find program' seeds').2
  · obtain ⟨hprogram, hbytes⟩ := preimage_inj hhashed
    exact .inl ⟨hprogram, h.same_of_flatten h' hbytes⟩
  · have hdigest := find_candidate program seeds
    exact .inr ⟨hhashed, hdigest.symm.trans (haddress.trans (find_candidate program' seeds'))⟩

namespace Place

variable {place other : Place} {program address : Key} {places : List Place} {keys : List Key}

/-- The record of a program lies at an address. -/
def LiesAt (program : Key) (place : Place) (address : Key) : Prop :=
  ∃ bump, place.derived program = .ok (.ok (address, bump))

/-- A record lies at the address that is derived for it. -/
private theorem liesAt_of_derived {found : Key × UInt8}
    (h : place.derived program = .ok (.ok found)) : place.LiesAt program found.1 :=
  ⟨found.2, h⟩

/-- The configuration lies at its derived address. -/
theorem liesAt_mainState (program : Key) :
    mainState.LiesAt program (Address.mainState program).1 :=
  liesAt_of_derived (by rw [derived])

/-- The counters lie at their derived address. -/
theorem liesAt_globalStats (program : Key) :
    globalStats.LiesAt program (Address.globalStats program).1 :=
  liesAt_of_derived (by rw [derived])

/-- A user's loan lies at its derived address. -/
theorem liesAt_userLoan (program owner : Key) :
    (userLoan owner).LiesAt program (Address.userLoan program owner).1 :=
  liesAt_of_derived (by rw [derived])

/-- What is hashed for the addresses of two records is different, and has the same digest. -/
def Collide (program : Key) (place other : Place) : Prop :=
  ∃ seeds seeds', place.Seeded seeds ∧ other.Seeded seeds' ∧
    preimage program seeds (find program seeds).2 ≠
      preimage program seeds' (find program seeds').2 ∧
    Sha256.digest (preimage program seeds (find program seeds).2) =
      Sha256.digest (preimage program seeds' (find program seeds').2)

/-- Records at the same address are one record, unless they collide. -/
theorem LiesAt.same_or_collide (h : place.LiesAt program address)
    (h' : other.LiesAt program address) : place.Same other ∨ place.Collide program other := by
  obtain ⟨bump, hplace⟩ := h
  obtain ⟨bump', hother⟩ := h'
  obtain ⟨seeds, hseeds⟩ := place.exists_seeded
  obtain ⟨seeds', hseeds'⟩ := other.exists_seeded
  rw [hseeds.derived_eq, Except.ok.injEq, Except.ok.injEq] at hplace
  rw [hseeds'.derived_eq, Except.ok.injEq, Except.ok.injEq] at hother
  have haddress : (find program seeds).1 = (find program seeds').1 := by rw [hplace, hother]
  rcases hseeds.same_or_digest hseeds' haddress with ⟨-, hsame⟩ | hdigest
  · exact .inl hsame
  · exact .inr ⟨seeds, seeds', hseeds, hseeds', hdigest⟩

/-- Some two of the records collide. -/
def SomeCollide (program : Key) (places : List Place) : Prop :=
  ∃ place ∈ places, ∃ other ∈ places, place.Collide program other

/-- Each of the addresses at which some records lie is that of one of them. -/
theorem exists_liesAt_of_mem (h : List.Forall₂ (LiesAt program) places keys)
    (hmem : address ∈ keys) : ∃ place ∈ places, place.LiesAt program address := by
  induction h with
  | nil => cases hmem
  | cons hhead _ ih =>
    rcases List.mem_cons.mp hmem with rfl | hmem
    · exact ⟨_, List.mem_cons_self, hhead⟩
    · obtain ⟨place, hplace, hlies⟩ := ih hmem
      exact ⟨place, List.mem_cons_of_mem _ hplace, hlies⟩

/-- Different records have different addresses, unless some of them collide. -/
theorem nodup_or_collide (h : List.Forall₂ (LiesAt program) places keys)
    (hapart : places.Pairwise fun place other => ¬ place.Same other) :
    keys.Nodup ∨ SomeCollide program places := by
  induction h with
  | nil => exact .inl List.nodup_nil
  | cons hhead htail ih =>
    obtain ⟨hfirst, hrest⟩ := List.pairwise_cons.mp hapart
    rcases ih hrest with hnodup | ⟨place, hplace, other, hother, hcollide⟩
    · refine or_iff_not_imp_right.mpr fun hnone => List.nodup_cons.mpr ⟨fun hmem => ?_, hnodup⟩
      obtain ⟨other, hother, hlies⟩ := exists_liesAt_of_mem htail hmem
      rcases hhead.same_or_collide hlies with hsame | hcollide
      · exact hfirst other hother hsame
      · exact hnone ⟨_, List.mem_cons_self, other, List.mem_cons_of_mem _ hother, hcollide⟩
    · exact .inr ⟨place, List.mem_cons_of_mem _ hplace, other, List.mem_cons_of_mem _ hother,
        hcollide⟩

end Place

/-- **Addresses of records do not collide.** Each record of a program has an address, the digest of
its seeds, a further byte, the program and the marker. It is the same for all names of the record.
If records have the same address they are one record of one program, or what is hashed for them is
two different byte strings with the same digest. -/
theorem records_apart (program program' : Key) (place place' : Place) :
    ∃ (found found' : Key × UInt8) (seeds seeds' : List Bytes),
      place.derived program = .ok (.ok found) ∧ place'.derived program' = .ok (.ok found') ∧
      place.Seeded seeds ∧ place'.Seeded seeds' ∧
      found.1 = Sha256.digest (preimage program seeds found.2) ∧
      found'.1 = Sha256.digest (preimage program' seeds' found'.2) ∧
      (program = program' ∧ place.Same place' → found = found') ∧
      (found.1 = found'.1 →
        program = program' ∧ place.Same place' ∨
        preimage program seeds found.2 ≠ preimage program' seeds' found'.2 ∧
          Sha256.digest (preimage program seeds found.2) =
            Sha256.digest (preimage program' seeds' found'.2)) := by
  obtain ⟨seeds, hseeds⟩ := place.exists_seeded
  obtain ⟨seeds', hseeds'⟩ := place'.exists_seeded
  refine ⟨_, _, seeds, seeds', hseeds.derived_eq program, hseeds'.derived_eq program', hseeds,
    hseeds', find_candidate program seeds, find_candidate program' seeds', ?_, fun haddress => ?_⟩
  · rintro ⟨rfl, hsame⟩
    rw [hseeds.eq_of_same hseeds' hsame]
  · exact hseeds.same_or_digest hseeds' haddress

end LendingClient.Address
