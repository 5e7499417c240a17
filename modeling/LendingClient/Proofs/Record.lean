import LendingClient.Proofs.Layout.Canonical
import LendingClient.Proofs.Run.Steady
import Mathlib.Data.List.Nodup

/-!
# Data of accounts and the records in it

The data of an account is the written form of a record with anything behind it, or else it is refused
as what it is: data of an account of that kind at that address that cannot be read. Records of
different kinds are told apart by their first eight bytes. Reading a record through a ledger adds
nothing to this but the two answers that are no data: there is no such account, or the ledger fails.
-/

namespace LendingClient

/-- Accounts of different kinds begin with different bytes. -/
theorem AccountKind.eq_of_discriminator {kind other : AccountKind}
    (h : discriminator accountSpace kind.name = discriminator accountSpace other.name) :
    kind = other := by
  have hdistinct : ([AccountKind.mainState, .globalStats, .userLoan, .dailyStats, .mint].map
      fun kind => discriminator accountSpace kind.name).Nodup := by decide +kernel
  have hmem (kind : AccountKind) :
      kind ∈ [AccountKind.mainState, .globalStats, .userLoan, .dailyStats, .mint] := by
    cases kind <;> decide
  exact List.inj_on_of_nodup_map hdistinct (hmem kind) (hmem other) h

namespace Record

/-- Data is refused, wherever it was found: it cannot be read as an account of the kind that is asked
for. -/
def Refuses (α : Type) [Record α] (data : Bytes) : Prop :=
  ∀ address, ∃ fault, decode α address data = .error (.decode (kind α) address fault)

variable {α β : Type} [Record α] [Record β] {data : Bytes} {address : Key}

private theorem length_tag : (tag α).length = 8 :=
  length_discriminator accountSpace (kind α).name

/-- Data is decoded as a record if and only if its first eight bytes are those of the kind and the
record is read from the rest. -/
theorem decode_eq_ok_iff {value : α} :
    decode α address data = .ok value ↔
      ∃ body rest, data = tag α ++ body ∧ (layout (α := α)).read body = .ok (value, rest) := by
  unfold decode
  rw [mapError_eq_ok_iff]
  unfold read?
  constructor
  · intro h
    split at h
    · cases h
    · split at h
      · cases h
      · rename_i htag
        split at h
        · rename_i found rest hread
          cases h
          refine ⟨data.drop 8, rest, ?_, hread⟩
          rw [← Decidable.not_not.mp htag, List.take_append_drop]
        · cases h
  · rintro ⟨body, rest, rfl, hread⟩
    have hlength : ¬ (tag α ++ body).length < 8 := by
      rw [List.length_append, length_tag]
      omega
    have htake : (tag α ++ body).take 8 = tag α := List.take_left' length_tag
    have hdrop : (tag α ++ body).drop 8 = body := List.drop_left' length_tag
    rw [if_neg hlength, htake, if_neg (not_not_intro rfl), hdrop, hread]

/-- Data that no record is decoded from is refused. -/
theorem refuses_of_not_ok (h : ∀ address (value : α), decode α address data ≠ .ok value) :
    Refuses α data := by
  intro address
  have hread := h address
  unfold decode at hread ⊢
  cases hresult : read? α data with
  | ok value =>
    rw [hresult] at hread
    exact absurd rfl (hread value)
  | error fault => exact ⟨fault, rfl⟩

/-- Data with other first bytes than those of the kind is refused. -/
theorem refuses_of_take_ne (h : data.take 8 ≠ tag α) : Refuses α data := by
  refine refuses_of_not_ok fun address value hvalue => h ?_
  obtain ⟨body, rest, rfl, -⟩ := decode_eq_ok_iff.mp hvalue
  exact List.take_left' length_tag

/-- Data that is decoded as a record of one kind is refused as any other. -/
theorem refuses_of_decode {value : β} (hkind : kind α ≠ kind β)
    (h : decode β address data = .ok value) : Refuses α data := by
  obtain ⟨body, rest, rfl, -⟩ := decode_eq_ok_iff.mp h
  have htake : (tag β ++ body).take 8 = tag β := List.take_left' length_tag
  refine refuses_of_take_ne fun htag => hkind ?_
  rw [htake] at htag
  exact AccountKind.eq_of_discriminator htag.symm

/-- Data that is broken behind the first bytes of the kind is refused. -/
theorem refuses_of_broken {body : Bytes} (h : (layout (α := α)).Broken body) :
    Refuses α (tag α ++ body) := by
  refine refuses_of_not_ok fun address value hvalue => ?_
  obtain ⟨other, rest, hbody, hread⟩ := decode_eq_ok_iff.mp hvalue
  obtain ⟨fault, hfault⟩ := h.exists_fault
  rw [← List.append_cancel_left hbody, hfault] at hread
  cases hread

/-! ## Records whose layout is read back, and reads nothing else -/

variable (hreads : ∀ value : α, (layout (α := α)).ReadsBack value)
  (hcanonical : (layout (α := α)).Canonical)

include hreads in
/-- The data of a record is decoded as it, whatever follows. -/
theorem decode_encode (value : α) (rest : Bytes) :
    decode α address (encode value ++ rest) = .ok value := by
  rw [encode, List.append_assoc]
  exact decode_eq_ok_iff.mpr ⟨_, rest, rfl, hreads value rest⟩

include hcanonical in
/-- Data is decoded as a record only if it begins with the record's. -/
theorem encode_begins_of_decode {value : α} (h : decode α address data = .ok value) :
    encode value <+: data := by
  obtain ⟨body, rest, rfl, hread⟩ := decode_eq_ok_iff.mp h
  rw [hcanonical body value rest hread]
  exact ⟨rest, List.append_assoc _ _ _⟩

include hcanonical in
/-- Data is refused if it does not begin with the bytes of a record. -/
private theorem refuses_of_not_begins (h : ∀ value : α, ¬ encode value <+: data) : Refuses α data :=
  refuses_of_not_ok fun _ value hvalue => h value (encode_begins_of_decode hcanonical hvalue)

include hreads in
/-- Of two records of a kind, the data of neither begins that of the other. -/
theorem eq_of_encode_begins {value other : α} (h : encode value <+: encode other) :
    value = other := by
  obtain ⟨rest, hrest⟩ := h
  have hother : decode α Key.unset (encode other ++ []) = .ok other := decode_encode hreads other []
  rw [List.append_nil, ← hrest, decode_encode hreads value rest] at hother
  exact Except.ok.inj hother

include hreads hcanonical in
/-- The data of a record is refused if something is missing at its end. -/
theorem refuses_of_cut {value : α} (hcut : data <+: encode value) (hne : data ≠ encode value) :
    Refuses α data := by
  refine refuses_of_not_begins hcanonical fun found hfound => hne ?_
  obtain rfl : found = value := eq_of_encode_begins hreads (hfound.trans hcut)
  exact hcut.eq_of_length_le hfound.length_le

end Record

/-! ## Reading through a ledger -/

namespace ScriptedLedger

/-- The next time that a ledger is asked for an account, it fails. -/
def FailsRead (ledger : ScriptedLedger) (error : Error) : Prop :=
  (nextAnswer () ledger.script.accountReads).1.answer = .error error

/-- The next time that a ledger is asked for an account, it looks. -/
def Looks (ledger : ScriptedLedger) : Prop :=
  (nextAnswer () ledger.script.accountReads).1.answer = .ok ()

variable {ledger : ScriptedLedger} {α : Type}

private theorem looks_or_fails (ledger : ScriptedLedger) :
    ledger.Looks ∨ ∃ error, ledger.FailsRead error := by
  unfold Looks FailsRead
  cases (nextAnswer () ledger.script.accountReads).1.answer with
  | ok => exact .inl rfl
  | error error => exact .inr ⟨error, rfl⟩

/-- What a read comes to is worked out from the answer to its call. -/
theorem run_perform (read : Read α) :
    (ledger.run read.perform).1 =
      .ok ((ledger.answer (.account read.address)).1 >>= read.interpret) := by
  have hplay : ledger.run read.perform =
      (ledger.answer (.account read.address)).2.play
        (ExceptT.bindCont (fun data => liftM (Plan.ofExcept (read.interpret data)))
          (ledger.answer (.account read.address)).1) := play_ask
  rw [hplay]
  cases (ledger.answer (.account read.address)).1 with
  | error error => rfl
  | ok data => rfl

/-- A ledger that fails to read an account fails the read with the same error. -/
theorem run_perform_of_fails {error : Error} (read : Read α) (h : ledger.FailsRead error) :
    (ledger.run read.perform).1 = .ok (.error error) := by
  have hanswer : (ledger.answer (.account read.address)).1 = .error error :=
    congrArg (Except.map fun _ => ledger.accounts.get? read.address) h
  rw [run_perform, hanswer]
  rfl

/-- A ledger that looks hands over the data of the account, if there is one. -/
theorem run_perform_of_looks (read : Read α) (h : ledger.Looks) :
    (ledger.run read.perform).1 = .ok (read.interpret (ledger.accounts.get? read.address)) := by
  have hanswer : (ledger.answer (.account read.address)).1 =
      .ok (ledger.accounts.get? read.address) :=
    congrArg (Except.map fun _ => ledger.accounts.get? read.address) h
  rw [run_perform, hanswer]
  rfl

end ScriptedLedger

/-! ## The records of the program -/

namespace Layout

private theorem readsBack_i64 (value : Int64) : i64.ReadsBack value := by
  intro rest
  have hnumber := readsBack_u64 value.toUInt64 rest
  simp only [i64]
  rw [hnumber]
  simp [Except.map]

private theorem readsBack_mainState (state : MainState) : MainState.layout.ReadsBack state := by
  refine readsBack_via ?_ rfl
  refine readsBack_seq (readsBack_key _) (readsBack_seq (readsBack_key _) ?_)
  refine readsBack_seq (readsBack_u64 _) (readsBack_seq (readsBack_u64 _) ?_)
  refine readsBack_seq (readsBack_u64 _) (readsBack_seq (readsBack_key _) ?_)
  refine readsBack_seq (readsBack_key _) (readsBack_seq (readsBack_key _) ?_)
  exact readsBack_seq (readsBack_flag _) (readsBack_flag _)

private theorem canonical_mainState : MainState.layout.Canonical := by
  refine canonical_via ?_ fun _ => rfl
  refine canonical_seq canonical_key (canonical_seq canonical_key ?_)
  refine canonical_seq canonical_u64 (canonical_seq canonical_u64 ?_)
  refine canonical_seq canonical_u64 (canonical_seq canonical_key ?_)
  refine canonical_seq canonical_key (canonical_seq canonical_key ?_)
  exact canonical_seq canonical_flag canonical_flag

private theorem readsBack_globalStats (stats : GlobalStats) :
    GlobalStats.layout.ReadsBack stats := by
  refine readsBack_via ?_ rfl
  refine readsBack_seq (readsBack_i64 _) (readsBack_seq (readsBack_u64 _) ?_)
  refine readsBack_seq (readsBack_u64 _) (readsBack_seq (readsBack_u64 _) ?_)
  refine readsBack_seq (readsBack_u64 _) (readsBack_seq (readsBack_u64 _) ?_)
  exact readsBack_seq (readsBack_key _) (readsBack_flag _)

private theorem canonical_globalStats : GlobalStats.layout.Canonical := by
  refine canonical_via ?_ fun _ => rfl
  refine canonical_seq canonical_i64 (canonical_seq canonical_u64 ?_)
  refine canonical_seq canonical_u64 (canonical_seq canonical_u64 ?_)
  refine canonical_seq canonical_u64 (canonical_seq canonical_u64 ?_)
  exact canonical_seq canonical_key canonical_flag

private theorem readsBack_userLoan (loan : UserLoan) : UserLoan.layout.ReadsBack loan :=
  readsBack_via (readsBack_seq (readsBack_u64 _) (readsBack_seq (readsBack_u64 _)
    (readsBack_seq (readsBack_i64 _) (readsBack_u64 _)))) rfl

private theorem canonical_userLoan : UserLoan.layout.Canonical :=
  canonical_via (canonical_seq canonical_u64 (canonical_seq canonical_u64
    (canonical_seq canonical_i64 canonical_u64))) fun _ => rfl

private theorem readsBack_dailyStats (stats : DailyStats) : DailyStats.layout.ReadsBack stats :=
  readsBack_via (readsBack_seq (readsBack_i64 _) (readsBack_seq (readsBack_u64 _)
    (readsBack_u64 _))) rfl

private theorem canonical_dailyStats : DailyStats.layout.Canonical :=
  canonical_via (canonical_seq canonical_i64 (canonical_seq canonical_u64 canonical_u64))
    fun _ => rfl

end Layout

namespace Record

/-- The data of an account stands for a record of its kind, and all other data is refused. -/
structure Decodes (α : Type) [Record α] : Prop where
  /-- A record is decoded from its data, whatever follows. -/
  reads : ∀ (value : α) address rest, decode α address (encode value ++ rest) = .ok value
  /-- Nothing is decoded as a record but data that begins with the record's. -/
  writes : ∀ address data (value : α), decode α address data = .ok value → encode value <+: data
  /-- All other data is refused. -/
  refuses : ∀ data, (∀ value : α, ¬ encode value <+: data) → Refuses α data
  /-- So is the data of a record with something missing at its end. -/
  cut : ∀ (value : α) data, data <+: encode value → data ≠ encode value → Refuses α data
  /-- So is data whose first eight bytes are not those of the kind. -/
  foreign : ∀ data, data.take 8 ≠ tag α → Refuses α data
  /-- So is data with a flag that is neither zero nor one. -/
  broken : ∀ body, (layout (α := α)).Broken body → Refuses α (tag α ++ body)
  /-- What is decoded as a record is refused as one of any other kind. -/
  apart : ∀ (β : Type) [Record β] address data (value : α), kind β ≠ kind α →
    decode α address data = .ok value → Refuses β data

/-- Reading a record through a ledger comes to what the data of its account is decoded as, to the
answer that there is no such account, or to the ledger's own error. -/
structure Fetches (α : Type) [Record α] : Prop where
  /-- A read comes to no record exactly if there is no account. -/
  absent : ∀ (ledger : ScriptedLedger) address,
    (ledger.run (Read.optional α address).perform).1 = .ok (.ok none) ↔
      ledger.Looks ∧ ledger.accounts.get? address = none
  /-- Data that is there is decoded. -/
  found : ∀ (ledger : ScriptedLedger) address data, ledger.Looks →
    ledger.accounts.get? address = some data →
      (ledger.run (Read.optional α address).perform).1 =
        .ok ((decode α address data).map some) ∧
      (ledger.run (Read.required α address).perform).1 = .ok (decode α address data)
  /-- An account that has to be there and is not is reported with its kind and its address. -/
  missing : ∀ (ledger : ScriptedLedger) address, ledger.Looks →
    ledger.accounts.get? address = none →
      (ledger.run (Read.required α address).perform).1 =
        .ok (.error (.notFound (kind α) address))
  /-- Nothing else is reported so, unless it is the ledger that does. -/
  notFound : ∀ (ledger : ScriptedLedger) address other reported,
    (ledger.run (Read.required α address).perform).1 = .ok (.error (.notFound other reported)) →
      ledger.FailsRead (.notFound other reported) ∨
        ledger.Looks ∧ ledger.accounts.get? address = none ∧ other = kind α ∧ reported = address
  /-- What the ledger fails with is handed on as it is. -/
  fails : ∀ (ledger : ScriptedLedger) address error, ledger.FailsRead error →
    (ledger.run (Read.optional α address).perform).1 = .ok (.error error) ∧
      (ledger.run (Read.required α address).perform).1 = .ok (.error error)

variable {α : Type} [Record α]

/-- Records of a layout that is read back, and only from its own bytes, are decoded from their own
data alone. -/
private theorem decodes_of_canonical (hreads : ∀ value : α, (layout (α := α)).ReadsBack value)
    (hcanonical : (layout (α := α)).Canonical) : Decodes α where
  reads value _ rest := decode_encode hreads value rest
  writes _ _ _ h := encode_begins_of_decode hcanonical h
  refuses _ h := refuses_of_not_begins hcanonical h
  cut _ _ hcut hne := refuses_of_cut hreads hcanonical hcut hne
  foreign _ h := refuses_of_take_ne h
  broken _ h := refuses_of_broken h
  apart _ _ _ _ _ hkind h := refuses_of_decode hkind h

/-- An account that may be missing comes to no record exactly if it is. -/
theorem run_optional_eq_none_iff (ledger : ScriptedLedger) (address : Key) :
    (ledger.run (Read.optional α address).perform).1 = .ok (.ok none) ↔
      ledger.Looks ∧ ledger.accounts.get? address = none := by
  rcases ledger.looks_or_fails with hlooks | ⟨error, hfails⟩
  · rw [ScriptedLedger.run_perform_of_looks _ hlooks, and_iff_right hlooks]
    change Except.ok ((Read.optional α address).interpret (ledger.accounts.get? address)) = _ ↔ _
    cases hdata : ledger.accounts.get? address with
    | none => exact ⟨fun _ => rfl, fun _ => rfl⟩
    | some data =>
      change Except.ok ((decode α address data).map some) = _ ↔ _
      cases decode α address data with
      | ok value => exact ⟨nofun, nofun⟩
      | error error => exact ⟨nofun, nofun⟩
  · rw [ScriptedLedger.run_perform_of_fails _ hfails]
    refine ⟨nofun, fun ⟨hlooks, _⟩ => ?_⟩
    unfold ScriptedLedger.Looks at hlooks
    unfold ScriptedLedger.FailsRead at hfails
    rw [hlooks] at hfails
    cases hfails

/-- That an account is missing is reported only if it is, or if the ledger does. -/
theorem missing_of_run_required {ledger : ScriptedLedger} {address reported : Key}
    {other : AccountKind}
    (h : (ledger.run (Read.required α address).perform).1 =
      .ok (.error (.notFound other reported))) :
    ledger.FailsRead (.notFound other reported) ∨
      ledger.Looks ∧ ledger.accounts.get? address = none ∧ other = kind α ∧
        reported = address := by
  rcases ledger.looks_or_fails with hlooks | ⟨error, hfails⟩
  · right
    rw [ScriptedLedger.run_perform_of_looks _ hlooks] at h
    change Except.ok ((Read.required α address).interpret (ledger.accounts.get? address)) = _ at h
    cases hdata : ledger.accounts.get? address with
    | none =>
      rw [hdata] at h
      cases h
      exact ⟨hlooks, rfl, rfl, rfl⟩
    | some data =>
      -- What is wrong with data is said otherwise.
      rw [hdata] at h
      change Except.ok (decode α address data) = _ at h
      unfold decode at h
      cases hread : read? α data <;> rw [hread] at h <;> cases h
  · left
    rw [ScriptedLedger.run_perform_of_fails _ hfails] at h
    cases h
    exact hfails

/-- A read comes to what the account holds, or to the error of the ledger. -/
private theorem fetches (α : Type) [Record α] : Fetches α where
  absent := run_optional_eq_none_iff
  found ledger address data hlooks hdata := by
    have hread {β : Type} (read : Read β) (haddress : read.address = address) :
        (ledger.run read.perform).1 = .ok (read.interpret (some data)) := by
      rw [ScriptedLedger.run_perform_of_looks read hlooks, haddress, hdata]
    exact ⟨hread (Read.optional α address) rfl, hread (Read.required α address) rfl⟩
  missing ledger address hlooks hdata := by
    have hread := ScriptedLedger.run_perform_of_looks (Read.required α address) hlooks
    rw [hread]
    change Except.ok ((Read.required α address).interpret (ledger.accounts.get? address)) = _
    rw [hdata]
    rfl
  notFound _ _ _ _ h := missing_of_run_required h
  fails ledger address error h :=
    ⟨ScriptedLedger.run_perform_of_fails _ h, ScriptedLedger.run_perform_of_fails _ h⟩

/-- The data of the accounts that hold the configuration, the counters, a loan or the totals of a day
stands for the record in it. The four kinds differ, and reading any of them through a ledger comes to
what the data is decoded as. -/
theorem decoding_exact :
    (Decodes MainState ∧ Decodes GlobalStats ∧ Decodes UserLoan ∧ Decodes DailyStats) ∧
      [kind MainState, kind GlobalStats, kind UserLoan, kind DailyStats].Nodup ∧
      (Fetches MainState ∧ Fetches GlobalStats ∧ Fetches UserLoan ∧ Fetches DailyStats) := by
  have hmainState : Decodes MainState :=
    decodes_of_canonical Layout.readsBack_mainState Layout.canonical_mainState
  have hglobalStats : Decodes GlobalStats :=
    decodes_of_canonical Layout.readsBack_globalStats Layout.canonical_globalStats
  have huserLoan : Decodes UserLoan :=
    decodes_of_canonical Layout.readsBack_userLoan Layout.canonical_userLoan
  have hdailyStats : Decodes DailyStats :=
    decodes_of_canonical Layout.readsBack_dailyStats Layout.canonical_dailyStats
  have hkinds : [kind MainState, kind GlobalStats, kind UserLoan, kind DailyStats].Nodup := by
    decide
  exact ⟨⟨hmainState, hglobalStats, huserLoan, hdailyStats⟩, hkinds,
    fetches MainState, fetches GlobalStats, fetches UserLoan, fetches DailyStats⟩

end Record

end LendingClient
