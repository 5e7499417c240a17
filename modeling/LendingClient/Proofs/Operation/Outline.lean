import LendingClient.Proofs.Layout.Size
import LendingClient.Proofs.Operation.Input
import LendingClient.Proofs.Operation.Settling
import LendingClient.Proofs.Operation.Value
import LendingClient.Proofs.Transaction.Size

/-!
# Who signs a built batch, and how big it is

Whatever the accounts say, the batch of an operation is signed by its owner, and by nobody else
unless it makes a mint. It names a few dozen keys at most, and its data is short: all fields but the
texts of a new token have a fixed length, and those texts were checked.
-/

namespace LendingClient

open LendingClient.Action
open LendingClient.Message (SignedBy)

/-- The pair whose key an operation makes a mint of, if it makes one out of this pair. -/
def Operation.minted (pair : KeyPair) : Operation → Option KeyPair
  | .start .. => some pair
  | _ => none

/-- A batch is paid for by its owner, is signed by the owner and the pair that is minted, and is
small enough for a packet. -/
structure Batch.Outline (batch : Batch) (owner : Key) (minted : Option KeyPair) : Prop where
  payer : batch.payer = owner
  cosigners : batch.cosigners = minted.toList
  signed : SignedBy (owner :: minted.toList.map (·.key))
    (batch.instructions.flatMap Message.mentions)
  compact : ∃ names, batch.Compact names

/-! ### Accounts of trades and loans -/

namespace Market

variable {market : Market} {owner : Key} {usage : Usage}

/-- A usage has so many accounts, and nobody but the owner signs for it. -/
structure Usage.Lists (usage : Usage) (owner : Key) (count : Nat) : Prop where
  length : usage.accounts.length = count
  signed : SignedBy [owner] usage.accounts

/-- The account of a day may be changed, and nobody signs for it. -/
private theorem eq_changed_of_dayAccount {day : String} {account : AccountUse}
    (h : (market.dayAccount day).value? = some account) : ∃ key, account = .changed key := by
  obtain ⟨found, -, haccount⟩ := Plan.value?_bind_iff.mp h
  cases haccount
  exact ⟨found.1, rfl⟩

/-- A trade uses 19 accounts, and nobody but the owner signs for them. -/
theorem lists_commonUsage (h : (market.commonUsage owner).value? = some usage) :
    usage.Lists owner 19 := by
  obtain ⟨mint, -, h⟩ := Plan.value?_bind_iff.mp h
  obtain ⟨today, -, h⟩ := Plan.value?_bind_iff.mp h
  obtain ⟨settled, -, h⟩ := Plan.value?_bind_iff.mp h
  obtain ⟨todayAccount, htoday, h⟩ := Plan.value?_bind_iff.mp h
  obtain ⟨settledAccount, hsettled, h⟩ := Plan.value?_bind_iff.mp h
  obtain ⟨todayKey, rfl⟩ := eq_changed_of_dayAccount htoday
  obtain ⟨settledKey, rfl⟩ := eq_changed_of_dayAccount hsettled
  cases h
  refine ⟨rfl, fun key => ?_⟩
  simp

/-- Accounts behind those of a usage leave it to the owner to sign. -/
theorem Usage.Lists.append {count : Nat} {more : List AccountUse} {days : List String}
    (h : usage.Lists owner count) (hmore : ∀ key, Message.Marked (·.signs) key more → key = owner) :
    Usage.Lists ⟨usage.accounts ++ more, days⟩ owner (count + more.length) := by
  refine ⟨?_, fun key => ?_⟩
  · rw [List.length_append, h.length]
  · have howner := h.signed key
    rw [List.mem_singleton] at howner ⊢
    rw [Message.marked_append, howner]
    exact or_iff_left_of_imp (hmore key)

private theorem lists_openLoanUsage {days : UInt64}
    (h : (market.openLoanUsage owner days).value? = some usage) : usage.Lists owner 22 := by
  obtain ⟨common, hcommon, h⟩ := Plan.value?_bind_iff.mp h
  obtain ⟨endDay, -, h⟩ := Plan.value?_bind_iff.mp h
  obtain ⟨endAccount, hend, h⟩ := Plan.value?_bind_iff.mp h
  obtain ⟨endKey, rfl⟩ := eq_changed_of_dayAccount hend
  cases h
  exact (lists_commonUsage hcommon).append (by simp)

private theorem lists_adjustLoanUsage {loan : UserLoan}
    (h : (market.adjustLoanUsage owner loan).value? = some usage) : usage.Lists owner 20 := by
  obtain ⟨common, hcommon, h⟩ := Plan.value?_bind_iff.mp h
  obtain ⟨endDay, -, h⟩ := Plan.value?_bind_iff.mp h
  obtain ⟨endAccount, hend, h⟩ := Plan.value?_bind_iff.mp h
  obtain ⟨endKey, rfl⟩ := eq_changed_of_dayAccount hend
  cases h
  exact (lists_commonUsage hcommon).append (by simp)

private theorem lists_extendLoanUsage {loan : UserLoan} {days : UInt64}
    (h : (market.extendLoanUsage owner loan days).value? = some usage) : usage.Lists owner 23 := by
  obtain ⟨newEnd, -, h⟩ := Plan.value?_bind_iff.mp h
  obtain ⟨common, hcommon, h⟩ := Plan.value?_bind_iff.mp h
  obtain ⟨oldDay, -, h⟩ := Plan.value?_bind_iff.mp h
  obtain ⟨newDay, -, h⟩ := Plan.value?_bind_iff.mp h
  obtain ⟨oldAccount, hold, h⟩ := Plan.value?_bind_iff.mp h
  obtain ⟨newAccount, hnew, h⟩ := Plan.value?_bind_iff.mp h
  obtain ⟨oldKey, rfl⟩ := eq_changed_of_dayAccount hold
  obtain ⟨newKey, rfl⟩ := eq_changed_of_dayAccount hnew
  cases h
  exact (lists_commonUsage hcommon).append (by simp)

end Market

/-! ### Batches -/

namespace Batch

variable {batch : Batch} {owner : Key} {minted : Option KeyPair} {units : UInt32} {program : Key}
  {accounts : List AccountUse} {data : Bytes} {calls : List Instruction} {names : List Key}

/-- Nobody signs for the limit on computing at the head of a batch. -/
theorem signedBy_of_head {signers : List Key}
    (hinstructions : batch.instructions = .computeUnitLimit units :: calls)
    (hsigned : SignedBy signers (calls.flatMap Message.mentions)) :
    SignedBy signers (batch.instructions.flatMap Message.mentions) := by
  intro key
  have hhead : batch.instructions.flatMap Message.mentions =
      .read Address.computeBudgetProgram :: calls.flatMap Message.mentions := by
    rw [hinstructions, List.flatMap_cons]
    rfl
  rw [hhead, Message.marked_signs_read]
  exact hsigned key

/-- The limit at the head of a batch takes forty bytes: the key of its program, and eight of its
own. -/
theorem compact_of_head (hinstructions : batch.instructions = .computeUnitLimit units :: calls)
    (hpayer : batch.payer ∈ names)
    (hnamed : ∀ use ∈ calls.flatMap Message.mentions, use.key ∈ names) (hfew : calls.length ≤ 2)
    (hsize : 80 + 64 * (1 + batch.cosigners.length) + 32 * names.length + Instruction.sizes calls ≤
      Transaction.packetSize) :
    batch.Compact (Address.computeBudgetProgram :: names) := by
  refine ⟨List.mem_cons_of_mem _ hpayer, fun use hmem => ?_, ?_, ?_⟩
  · rw [hinstructions, List.flatMap_cons, List.mem_append] at hmem
    rcases hmem with hlimit | hcall
    · rw [List.mem_singleton.mp hlimit]
      exact List.mem_cons_self
    · exact List.mem_cons_of_mem _ (hnamed use hcall)
  · rw [hinstructions, List.length_cons]
    omega
  · have hhead : (Instruction.computeUnitLimit units).size = 8 := Instruction.size_computeUnitLimit
    rw [hinstructions, Instruction.sizes, hhead, List.length_cons]
    omega

/-- A batch of one call behind its head: each account may take 33 bytes, 32 for its key and one for
the key's place. -/
theorem outline_of_call (hpayer : batch.payer = owner)
    (hcosigners : batch.cosigners = minted.toList)
    (hinstructions : batch.instructions = [.computeUnitLimit units, ⟨program, accounts, data⟩])
    (hsigned : SignedBy (owner :: minted.toList.map (·.key)) accounts)
    (hsize : 64 * minted.toList.length + 33 * accounts.length + data.length ≤ 1052) :
    batch.Outline owner minted := by
  have hmentions : [Instruction.mk program accounts data].flatMap Message.mentions =
      .read program :: accounts := List.append_nil _
  refine ⟨hpayer, hcosigners, signedBy_of_head hinstructions fun key => ?_,
    Address.computeBudgetProgram :: program :: accounts.map (·.key),
    compact_of_head hinstructions ?_ (fun use hmem => ?_) (by simp) ?_⟩
  · rw [hmentions, Message.marked_signs_read]
    exact hsigned key
  · obtain ⟨use, hmem, hkey, -⟩ := (hsigned owner).mpr List.mem_cons_self
    rw [hpayer, ← hkey]
    exact List.mem_cons_of_mem _ (List.mem_map_of_mem hmem)
  · rw [hmentions] at hmem
    have hkey : use.key ∈ (.read program :: accounts).map AccountUse.key := List.mem_map_of_mem hmem
    exact hkey
  · have hcall : Instruction.size ⟨program, accounts, data⟩ ≤ 4 + accounts.length + data.length :=
      Instruction.size_le (by omega) (by omega)
    rw [hcosigners, Transaction.packetSize, Instruction.sizes, Instruction.sizes, List.length_cons,
      List.length_map]
    omega

end Batch

namespace Deployment

open InstructionKind (length_encode_le)

variable {deployment : Deployment} {snapshot : Snapshot} {operation : Operation} {owner : Key}
  {now : Int64} {batch : Batch} {kind : InstructionKind} {data : Bytes}

/-- A batch of a single call of the program is signed by its owner alone. -/
private theorem outline_batch {α : Type} {layout : Layout α} {args : α} {size : Nat}
    {accounts : List AccountUse} (hsigned : SignedBy [owner] accounts) (hlayout : layout.AtMost size)
    (hsize : 33 * accounts.length + size ≤ 1044) :
    (deployment.batch kind owner accounts (kind.encode layout args)).Outline owner none := by
  have hdata := length_encode_le hlayout kind args
  refine Batch.outline_of_call rfl rfl rfl hsigned ?_
  change 0 + 33 * accounts.length + _ ≤ 1052
  omega

/-- Trades and loans name 23 accounts at most, and take two numbers at most. -/
theorem outline_batchOnDays {α : Type} {layout : Layout α} {args : α} {size count : Nat}
    {usage : Market.Usage} (husage : usage.Lists owner count) (hcount : count ≤ 23)
    (hlayout : layout.AtMost size) (hsize : size ≤ 16) :
    (deployment.batchOnDays kind owner usage (kind.encode layout args)).Outline owner none := by
  have hlength := husage.length
  have hdata := length_encode_le hlayout kind args
  refine Batch.outline_of_call rfl rfl rfl husage.signed ?_
  change 0 + 33 * usage.accounts.length + _ ≤ 1052
  omega

/-- The batch that opens trading is signed by its owner and the pair of the new mint, as long as the
texts are within their limits. -/
private theorem outline_start {market : Market} {pair : KeyPair} {args : StartArguments}
    (hname : args.tokenName.utf8ByteSize ≤ 32) (hsymbol : args.tokenSymbol.utf8ByteSize ≤ 10)
    (huri : args.tokenUri.utf8ByteSize ≤ 200) :
    Batch.Outline { deployment.batch kind owner (market.startAccounts owner pair.key)
      (kind.encode .start args) with cosigners := [pair] } owner (some pair) := by
  have hdata : (kind.encode .start args).length = 8 + (Layout.start.write args).length :=
    kind.length_encode args
  have hargs := Layout.length_write_start args
  refine Batch.outline_of_call rfl rfl rfl (fun key => ?_) ?_
  · simp [Market.startAccounts]
  · change 64 + 33 * 18 + (kind.encode .start args).length ≤ 1052
    omega

/-- The instruction in front of a purchase for somebody who was sent names no account that the purchase
does not name, but for the owner and the quote token. -/
theorem keys_makeHolder {market : Market} {referral : Key} {use : AccountUse}
    (h : use ∈ Message.mentions (.makeHolder owner (market.quoteHolder referral) referral
      market.config.quoteToken market.deployment.tokenPrograms.quote)) :
    use.key = owner ∨ use.key = market.config.quoteToken ∨
      use.key ∈ (market.referralAccounts referral).map (·.key) := by
  simp only [Message.mentions, Instruction.makeHolder, List.mem_cons, List.not_mem_nil,
    or_false] at h
  rcases h with rfl | rfl | rfl | rfl | rfl | rfl | rfl <;>
    simp [Market.referralAccounts, AccountUse.payer, AccountUse.changed, AccountUse.read]

/-- A purchase for somebody who was sent names nearly all accounts of its first instruction in its
second one again. Counted twice, they would not leave enough room. -/
theorem outline_buyWithReferral {market : Market} {usage : Market.Usage} {referral : Key}
    {args : Key × UInt64} (husage : usage.Lists owner 19) :
    Batch.Outline { Batch.headed kind owner [
        .makeHolder owner (market.quoteHolder referral) referral market.config.quoteToken
          market.deployment.tokenPrograms.quote,
        ⟨deployment.program, usage.accounts ++ market.referralAccounts referral,
          kind.encode .referralAmount args⟩] with days := usage.days } owner none := by
  refine ⟨rfl, rfl, Batch.signedBy_of_head rfl fun key => ?_,
    Address.computeBudgetProgram :: deployment.program :: owner :: market.config.quoteToken ::
      (usage.accounts ++ market.referralAccounts referral).map (·.key),
    Batch.compact_of_head rfl ?_ (fun use hmem => ?_) (by simp) ?_⟩
  · have howner := husage.signed key
    rw [List.mem_singleton] at howner
    simp [Message.mentions, Instruction.makeHolder, Market.referralAccounts,
      Message.marked_append, howner]
  · exact List.mem_cons_of_mem _ List.mem_cons_self
  · simp only [List.flatMap_cons, List.flatMap_nil, List.append_nil, List.mem_append] at hmem
    rcases hmem with haccount | hcall
    · have hkey := keys_makeHolder haccount
      simp only [List.map_append, List.mem_cons, List.mem_append]
      tauto
    · rcases List.mem_cons.mp hcall with rfl | hmem
      · exact List.mem_cons_self
      · have hkey : use.key ∈ (usage.accounts ++ market.referralAccounts referral).map (·.key) :=
          List.mem_map_of_mem hmem
        simp only [List.mem_cons]
        tauto
  · have huses : (usage.accounts ++ market.referralAccounts referral).length = 24 := by
      rw [List.length_append, husage.length]
      rfl
    have hdata := length_encode_le Layout.atMost_referralAmount kind args
    have haccount : (Instruction.makeHolder owner (market.quoteHolder referral) referral
        market.config.quoteToken market.deployment.tokenPrograms.quote).size ≤ 11 :=
      Instruction.size_makeHolder_le
    have hcall : Instruction.size ⟨deployment.program,
        usage.accounts ++ market.referralAccounts referral, kind.encode .referralAmount args⟩ ≤
          4 + (usage.accounts ++ market.referralAccounts referral).length +
            (kind.encode .referralAmount args).length :=
      Instruction.size_le (by omega) (by omega)
    simp only [Batch.headed, Instruction.sizes, List.length_cons, List.length_nil, List.length_map,
      Transaction.packetSize, huses] at hcall ⊢
    omega

/-- The batch that an operation comes to is signed by its owner and the pair that it mints, and is
small enough for a packet. -/
theorem outline_of_valueOn
    (h : valueOn snapshot (deployment.build operation owner now) = some batch) :
    batch.Outline owner (operation.minted snapshot.fresh) := by
  obtain ⟨_, hvalid, hbatch⟩ := valueOn_bind_iff.mp h
  rw [valueOn_ofInput_iff] at hvalid
  cases operation with
  | setUp receiver mint buyFee sellFee leverageFee =>
    obtain ⟨sellRate, -, buyRate, -, leverageRate, -, -, rfl⟩ := valueOn_setUp_iff.mp hbatch
    refine outline_batch (fun key => ?_) Layout.atMost_setUp ?_
    · simp [Market.setUpAccounts]
    · exact (by decide : 33 * 5 + 56 ≤ 1044)
  | update change =>
    obtain ⟨args, -, config, -, -, -, rfl⟩ := valueOn_update_iff.mp hbatch
    refine outline_batch (fun key => ?_) Layout.atMost_update ?_
    · simp [Market.updateAccounts]
    · exact (by decide : 33 * 3 + 196 ≤ 1044)
  | start amount name symbol uri =>
    obtain ⟨market, -, -, units, -, rfl⟩ := valueOn_start_iff.mp hbatch
    obtain ⟨-, hrest⟩ := check_seq_eq_ok_iff.mp hvalid
    obtain ⟨hname, hrest⟩ := check_seq_eq_ok_iff.mp hrest
    obtain ⟨hsymbol, huri⟩ := check_seq_eq_ok_iff.mp hrest
    have hlimit {field : TokenField} {text : String}
        (hcheck : Operation.checkText field text = .ok ()) : text.utf8ByteSize ≤ field.limit :=
      (Operation.checkText_eq_ok_iff.mp hcheck).2
    exact outline_start (hlimit hname) (hlimit hsymbol) (hlimit huri)
  | buy amount referral =>
    cases referral with
    | none =>
      obtain ⟨market, -, units, -, usage, husage, rfl⟩ := valueOn_buy_iff.mp hbatch
      exact outline_batchOnDays (Market.lists_commonUsage husage) (by decide)
        Layout.atMost_amount (by decide)
    | some referral =>
      obtain ⟨-, market, -, units, -, usage, husage, rfl⟩ :=
        valueOn_buyWithReferral_iff.mp hbatch
      exact outline_buyWithReferral (Market.lists_commonUsage husage)
  | sell amount =>
    obtain ⟨market, -, units, -, usage, husage, rfl⟩ := valueOn_sell_iff.mp hbatch
    exact outline_batchOnDays (Market.lists_commonUsage husage) (by decide)
      Layout.atMost_amount (by decide)
  | borrow amount days | leverage amount days =>
    obtain ⟨market, -, units, -, usage, husage, rfl⟩ := valueOn_openLoan_iff.mp hbatch
    exact outline_batchOnDays (Market.lists_openLoanUsage husage) (by decide)
      Layout.atMost_daysAmount (by decide)
  | borrowMore amount | repay amount | removeCollateral amount | closePosition amount =>
    obtain ⟨market, loan, -, units, -, usage, husage, rfl⟩ := valueOn_adjustLoan_iff.mp hbatch
    exact outline_batchOnDays (Market.lists_adjustLoanUsage husage) (by decide)
      Layout.atMost_amount (by decide)
  | flashClosePosition =>
    obtain ⟨market, loan, -, usage, husage, rfl⟩ := valueOn_flashClose_iff.mp hbatch
    exact outline_batchOnDays (Market.lists_adjustLoanUsage husage) (by decide)
      Layout.atMost_unit (by decide)
  | extendLoan days =>
    obtain ⟨market, loan, -, usage, husage, rfl⟩ := valueOn_extendLoan_iff.mp hbatch
    exact outline_batchOnDays (Market.lists_extendLoanUsage husage) (by decide)
      Layout.atMost_u64 (by decide)
  | liquidate =>
    obtain ⟨market, -, usage, husage, rfl⟩ := valueOn_liquidate_iff.mp hbatch
    exact outline_batchOnDays (Market.lists_commonUsage husage) (by decide)
      Layout.atMost_unit (by decide)
  | stake amount =>
    obtain ⟨market, -, token, program, -, units, -, mint, -, rfl⟩ := valueOn_stake_iff.mp hbatch
    refine outline_batch (fun key => ?_) Layout.atMost_amount ?_
    · simp [Market.stakeAccounts, Market.stakePrograms]
    · exact (by decide : 33 * 18 + 8 ≤ 1044)
  | unstake amount =>
    obtain ⟨market, -, token, program, -, units, -, mint, -, rfl⟩ := valueOn_unstake_iff.mp hbatch
    refine outline_batch (fun key => ?_) Layout.atMost_amount ?_
    · simp [Market.unstakeAccounts, Market.stakePrograms]
    · exact (by decide : 33 * 20 + 8 ≤ 1044)

end Deployment

end LendingClient
