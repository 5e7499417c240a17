import LendingClient.Proofs.Transaction.Signing
import Mathlib.Data.List.Perm.Subperm

/-!
# The keys of a message

Keys are named again and again, in the same instruction and in different ones, with different flags.
A message has each of them once: the uses of a key are merged, and the merged uses are sorted by key
and split into four groups. What a key is marked with after that is what some use of it was marked
with before, so a message has exactly the keys that are named, and its signers are the payer and
exactly the keys that sign somewhere. It can be written whenever the keys are few enough.
-/

namespace LendingClient.Message

variable {mark : AccountUse → Bool} {key payer : Key} {use other : AccountUse}
  {uses named : List AccountUse} {instructions : List Instruction}

/-! ### Marks of keys -/

/-- A key has a mark by one of some uses. -/
def Marked (mark : AccountUse → Bool) (key : Key) (uses : List AccountUse) : Prop :=
  ∃ use ∈ uses, use.key = key ∧ mark use = true

/-- A key is named by one of some uses. -/
abbrev Named (key : Key) (uses : List AccountUse) : Prop :=
  Marked (fun _ => true) key uses

/-- Merged uses have a mark exactly if one of them had it. -/
def Merges (mark : AccountUse → Bool) : Prop :=
  ∀ use other : AccountUse,
    mark ⟨other.key, use.signs || other.signs, use.writable || other.writable⟩ =
      (mark use || mark other)

private theorem merges_named : Merges fun _ => true :=
  fun _ _ => rfl

private theorem merges_signs : Merges (·.signs) :=
  fun _ _ => rfl

/-- Without accounts no key is marked. -/
@[simp] theorem not_marked_nil : ¬ Marked mark key [] := by
  simp [Marked]

private theorem marked_cons :
    Marked mark key (use :: uses) ↔ (use.key = key ∧ mark use = true) ∨ Marked mark key uses := by
  simp [Marked]

/-- A key is marked among the accounts of two lists if it is in one of them. -/
theorem marked_append :
    Marked mark key (named ++ uses) ↔ Marked mark key named ∨ Marked mark key uses := by
  simp only [Marked, List.mem_append, or_and_right, exists_or]

/-- Exactly some keys sign by some uses. -/
def SignedBy (signers : List Key) (uses : List AccountUse) : Prop :=
  ∀ key, Marked (·.signs) key uses ↔ key ∈ signers

section

variable {signer : Key}

/-- Who pays signs. -/
@[simp] theorem marked_signs_payer :
    Marked (·.signs) key (.payer signer :: uses) ↔ key = signer ∨ Marked (·.signs) key uses := by
  simp [marked_cons, AccountUse.payer, eq_comm]

/-- Who witnesses signs. -/
@[simp] theorem marked_signs_witness :
    Marked (·.signs) key (.witness signer :: uses) ↔ key = signer ∨ Marked (·.signs) key uses := by
  simp [marked_cons, AccountUse.witness, eq_comm]

/-- Nobody signs for an account that is only changed. -/
@[simp] theorem marked_signs_changed :
    Marked (·.signs) key (.changed signer :: uses) ↔ Marked (·.signs) key uses := by
  simp [marked_cons, AccountUse.changed]

/-- Nobody signs for an account that is only read. -/
@[simp] theorem marked_signs_read :
    Marked (·.signs) key (.read signer :: uses) ↔ Marked (·.signs) key uses := by
  simp [marked_cons, AccountUse.read]

end

private theorem named_iff_mem : Named key uses ↔ key ∈ uses.map (·.key) := by
  simp [Marked]

/-- Adding a use adds its mark to its key, and takes no mark from any. -/
theorem marked_mention_iff (hmark : Merges mark) :
    Marked mark key (mention use uses) ↔
      (use.key = key ∧ mark use = true) ∨ Marked mark key uses := by
  induction uses with
  | nil => exact marked_cons
  | cons other uses ih =>
    by_cases hkey : use.key = other.key
    · have hmerged := hmark use other
      rw [mention, if_pos hkey, marked_cons, marked_cons, hmerged, Bool.or_eq_true, hkey]
      tauto
    · by_cases hlt : use.key.bytes < other.key.bytes
      · rw [mention, if_neg hkey, if_pos hlt, marked_cons]
      · rw [mention, if_neg hkey, if_neg hlt, marked_cons, ih, marked_cons]
        tauto

/-- After adding uses one after the other, a key has the marks that it had and theirs. -/
theorem marked_foldl_iff (hmark : Merges mark) :
    Marked mark key (named.foldl (fun uses use => mention use uses) uses) ↔
      Marked mark key named ∨ Marked mark key uses := by
  induction named generalizing uses with
  | nil =>
    have hnil : ¬ Marked mark key [] := not_marked_nil
    simp only [List.foldl_nil, hnil, false_or]
  | cons use named ih =>
    rw [List.foldl_cons, ih, marked_mention_iff hmark, marked_cons]
    tauto

/-- Merging the uses of the keys other than the payer's changes no key's mark. -/
theorem marked_namedKeys_iff (hmark : Merges mark) :
    Marked mark key (namedKeys payer instructions) ↔
      key ≠ payer ∧ Marked mark key (instructions.flatMap mentions) := by
  have hfold : Marked mark key
      ((instructions.flatMap mentions).foldl (fun uses use => mention use uses) []) ↔
        Marked mark key (instructions.flatMap mentions) := by
    rw [marked_foldl_iff hmark, or_iff_left not_marked_nil]
  rw [← hfold, namedKeys]
  constructor
  · rintro ⟨use, hmem, rfl, hmarked⟩
    obtain ⟨hmem, hne⟩ := List.mem_filter.mp hmem
    exact ⟨of_decide_eq_true hne, use, hmem, rfl, hmarked⟩
  · rintro ⟨hne, use, hmem, rfl, hmarked⟩
    exact ⟨use, List.mem_filter.mpr ⟨hmem, decide_eq_true hne⟩, rfl, hmarked⟩

/-- Every key that is named but the payer's is among the named keys. -/
theorem mem_namedKeys_iff :
    key ∈ (namedKeys payer instructions).map (·.key) ↔
      key ≠ payer ∧ Named key (instructions.flatMap mentions) :=
  named_iff_mem.symm.trans (marked_namedKeys_iff merges_named)

/-! ### The order of keys -/

/-- Uses are in the order of their keys, and no key is used twice. -/
def InOrder (uses : List AccountUse) : Prop :=
  uses.Pairwise fun use later => use.key.bytes < later.key.bytes

/-- Of two different keys that are not in order the second comes first. -/
theorem bytes_lt_of_not_lt {first second : Key} (hne : first ≠ second)
    (hlt : ¬ first.bytes < second.bytes) : second.bytes < first.bytes := by
  have hbytes : first.bytes ≠ second.bytes := fun h => hne (Octets.ext_bytes h)
  exact Std.lt_of_le_of_ne hlt hbytes.symm

/-- Uses stay in order when one is added. -/
theorem InOrder.mention (h : InOrder uses) : InOrder (mention use uses) := by
  induction uses with
  | nil => exact List.pairwise_singleton _ _
  | cons other uses ih =>
    obtain ⟨hfirst, hrest⟩ := List.pairwise_cons.mp h
    by_cases hkey : use.key = other.key
    · rw [Message.mention, if_pos hkey]
      exact List.pairwise_cons.mpr ⟨hfirst, hrest⟩
    · by_cases hlt : use.key.bytes < other.key.bytes
      · rw [Message.mention, if_neg hkey, if_pos hlt]
        refine List.pairwise_cons.mpr ⟨fun later hlater => ?_, h⟩
        rcases List.mem_cons.mp hlater with rfl | hlater
        · exact hlt
        · exact List.lt_trans hlt (hfirst later hlater)
      · rw [Message.mention, if_neg hkey, if_neg hlt]
        refine List.pairwise_cons.mpr ⟨fun later hlater => ?_, ih hrest⟩
        have hnamed : Named later.key (Message.mention use uses) := ⟨later, hlater, rfl, rfl⟩
        rcases (marked_mention_iff merges_named).mp hnamed with ⟨hadded, -⟩ | ⟨use', hold, hsame, -⟩
        · rw [← hadded]
          exact bytes_lt_of_not_lt hkey hlt
        · rw [← hsame]
          exact hfirst use' hold

/-- Accounts that are mentioned one by one stay in order. -/
private theorem InOrder.foldl (h : InOrder uses) :
    InOrder (named.foldl (fun uses use => Message.mention use uses) uses) := by
  induction named generalizing uses with
  | nil => exact h
  | cons use named ih => exact ih h.mention

/-- No key is used twice in uses that are in order. -/
theorem InOrder.nodup_keys (h : InOrder uses) : (uses.map (·.key)).Nodup := by
  refine List.pairwise_map.mpr (h.imp fun hlt hsame => ?_)
  rw [hsame] at hlt
  exact List.lt_irrefl _ hlt

/-- The keys that are named besides the payer's are each named once. -/
theorem nodup_namedKeys (payer : Key) (instructions : List Instruction) :
    ((namedKeys payer instructions).map (·.key)).Nodup := by
  have horder : InOrder
      ((instructions.flatMap mentions).foldl (fun uses use => mention use uses) []) :=
    InOrder.foldl List.Pairwise.nil
  have hnamed : InOrder (namedKeys payer instructions) := List.Pairwise.filter _ horder
  exact hnamed.nodup_keys

/-! ### The list of keys -/

/-- The keys that sign, those that may be changed first. -/
def signing (uses : List AccountUse) : List Key :=
  group true true uses ++ group true false uses

/-- The keys that do not sign, those that may be changed first. -/
def silent (uses : List AccountUse) : List Key :=
  group false true uses ++ group false false uses

/-- The keys of a message: the payer's, the others that sign, and the rest. -/
def listedKeys (payer : Key) (instructions : List Instruction) : List Key :=
  payer :: signing (namedKeys payer instructions) ++ silent (namedKeys payer instructions)

/-- Two groups have the keys that sign, or those that do not. -/
theorem groups_perm (signs : Bool) (uses : List AccountUse) :
    (group signs true uses ++ group signs false uses).Perm
      ((uses.filter (·.signs == signs)).map (·.key)) := by
  have hsplit := List.filter_append_perm (·.writable) (uses.filter (·.signs == signs))
  rw [List.filter_filter, List.filter_filter] at hsplit
  have hchanged : uses.filter (fun use => use.signs == signs && use.writable == true) =
      uses.filter (fun use => use.writable && use.signs == signs) := by
    simp only [Bool.and_comm, beq_true]
  have hread : uses.filter (fun use => use.signs == signs && use.writable == false) =
      uses.filter (fun use => !use.writable && use.signs == signs) := by
    simp only [Bool.and_comm, beq_false]
  rw [group, group, ← List.map_append, hchanged, hread]
  exact hsplit.map _

private theorem signing_perm : (signing uses).Perm ((uses.filter (·.signs)).map (·.key)) := by
  have hgroups := groups_perm true uses
  simp only [beq_true] at hgroups
  exact hgroups

private theorem silent_perm : (silent uses).Perm ((uses.filter (!·.signs)).map (·.key)) := by
  have hgroups := groups_perm false uses
  simp only [beq_false] at hgroups
  exact hgroups

private theorem mem_signing_iff : key ∈ signing uses ↔ Marked (·.signs) key uses := by
  rw [signing_perm.mem_iff, List.mem_map]
  constructor
  · rintro ⟨use, hmem, rfl⟩
    obtain ⟨hmem, hsigns⟩ := List.mem_filter.mp hmem
    exact ⟨use, hmem, rfl, hsigns⟩
  · rintro ⟨use, hmem, rfl, hsigns⟩
    exact ⟨use, List.mem_filter.mpr ⟨hmem, hsigns⟩, rfl⟩

/-- Splitting the named keys into groups neither loses nor adds one. -/
theorem listedKeys_perm (payer : Key) (instructions : List Instruction) :
    (listedKeys payer instructions).Perm
      (payer :: (namedKeys payer instructions).map (·.key)) := by
  rw [listedKeys]
  generalize namedKeys payer instructions = uses
  have hgroups : (signing uses ++ silent uses).Perm
      ((uses.filter (·.signs) ++ uses.filter (!·.signs)).map (·.key)) := by
    rw [List.map_append]
    exact signing_perm.append silent_perm
  have hfilter := (List.filter_append_perm (·.signs) uses).map (·.key)
  exact (hgroups.trans hfilter).cons payer

/-- A message has the payer's key and exactly the keys that its instructions name. -/
theorem mem_listedKeys_iff :
    key ∈ listedKeys payer instructions ↔
      key = payer ∨ Named key (instructions.flatMap mentions) := by
  rw [(listedKeys_perm payer instructions).mem_iff, List.mem_cons, mem_namedKeys_iff]
  tauto

/-- A message has each of its keys once. -/
theorem nodup_listedKeys (payer : Key) (instructions : List Instruction) :
    (listedKeys payer instructions).Nodup := by
  have hpayer : payer ∉ (namedKeys payer instructions).map (·.key) := by
    rw [mem_namedKeys_iff]
    exact fun h => h.1 rfl
  have hnodup := List.nodup_cons.mpr ⟨hpayer, nodup_namedKeys payer instructions⟩
  exact (listedKeys_perm payer instructions).nodup_iff.mpr hnodup

/-- A message has no more keys than any list that has the payer's key and all named ones. -/
theorem length_listedKeys_le {names : List Key} (hpayer : payer ∈ names)
    (hnamed : ∀ use ∈ instructions.flatMap mentions, use.key ∈ names) :
    (listedKeys payer instructions).length ≤ names.length := by
  have hsubset : listedKeys payer instructions ⊆ names := by
    intro key hkey
    rcases mem_listedKeys_iff.mp hkey with rfl | ⟨use, hmem, rfl, -⟩
    · exact hpayer
    · exact hnamed use hmem
  exact ((nodup_listedKeys payer instructions).subperm hsubset).length_le

/-! ### Compiled messages -/

variable {blockhash : Blockhash} {message : Message}

/-- A message can be written if its keys have places in one byte, and its header counts them. -/
theorem exists_compile_of_length (h : (listedKeys payer instructions).length < 256) :
    ∃ message, compile payer instructions blockhash = .ok message := by
  have hlength : (payer :: group true true (namedKeys payer instructions) ++
      group true false (namedKeys payer instructions)).length +
      ((group false true (namedKeys payer instructions)).length +
        (group false false (namedKeys payer instructions)).length) < 256 := by
    simpa [listedKeys, signing, silent, Nat.add_assoc, Nat.add_comm, Nat.add_left_comm] using h
  unfold compile
  dsimp only
  rw [if_pos]
  · exact ⟨_, rfl⟩
  · refine ⟨by omega, by omega, ?_⟩
    rw [List.length_append, List.length_append]
    omega

/-- A compiled message has the listed keys. -/
theorem keys_compile (h : compile payer instructions blockhash = .ok message) :
    message.keys = listedKeys payer instructions := by
  unfold compile at h
  dsimp only at h
  split at h
  · cases h
    simp only [listedKeys, signing, silent, List.cons_append, List.append_assoc]
  · cases h

/-- No key has to sign a message twice. -/
theorem nodup_signerKeys (h : compile payer instructions blockhash = .ok message) :
    message.signerKeys.Nodup := by
  have hlisted := nodup_listedKeys payer instructions
  rw [← keys_compile h] at hlisted
  exact (List.take_sublist _ _).nodup hlisted

/-- The header counts the keys that have to sign. -/
theorem requiredSignatures_compile (h : compile payer instructions blockhash = .ok message) :
    message.header.requiredSignatures.toNat = message.signerKeys.length := by
  have hcount : message.header.requiredSignatures.toNat ≤ message.keys.length := by
    unfold compile at h
    dsimp only at h
    split at h
    · cases h
      refine Nat.le_trans (Nat.mod_le _ _) ?_
      simp only [List.length_append]
      omega
    · cases h
  rw [signerKeys, List.length_take, Nat.min_eq_left hcount]

/-- A compiled message has the compiled instructions, in their order. -/
theorem instructions_compile (h : compile payer instructions blockhash = .ok message) :
    message.instructions =
      instructions.map (compileInstruction (listedKeys payer instructions)) := by
  rw [← keys_compile h]
  unfold compile at h
  dsimp only at h
  split at h
  · cases h
    rfl
  · cases h

/-- Sixteen bits count the instructions, and the accounts and the data of each of them. -/
def Countable (instructions : List Instruction) : Prop :=
  instructions.length ≤ 65535 ∧
    ∀ instruction ∈ instructions,
      instruction.accounts.length ≤ 65535 ∧ instruction.data.length ≤ 65535

/-- A message can be written if everything that it counts can be counted. -/
theorem fits_compile_iff (h : compile payer instructions blockhash = .ok message) :
    message.fits = true ↔ Countable instructions := by
  have heach (keys : List Key) (instruction : Instruction) :
      CompiledInstruction.fits (compileInstruction keys instruction) = true ↔
        instruction.accounts.length ≤ 65535 ∧ instruction.data.length ≤ 65535 := by
    have haccounts : (compileInstruction keys instruction).accounts.length =
        instruction.accounts.length := List.length_map _
    rw [CompiledInstruction.fits, haccounts, Bool.and_eq_true, decide_eq_true_iff,
      decide_eq_true_iff]
    exact Iff.rfl
  rw [fits, instructions_compile h, Bool.and_eq_true, List.length_map, decide_eq_true_eq,
    List.all_map, List.all_eq_true]
  exact and_congr Iff.rfl (forall₂_congr fun instruction _ => heach _ instruction)

/-- The signers of a message are its payer and those that sign besides it. -/
theorem mem_signerKeys_iff {signers : List Key}
    (h : compile payer instructions blockhash = .ok message)
    (hsigned : SignedBy (payer :: signers) (instructions.flatMap mentions)) :
    key ∈ message.signerKeys ↔ key ∈ payer :: signers := by
  have hsigning : key ∈ message.signerKeys ↔
      key = payer ∨ key ∈ signing (namedKeys payer instructions) := by
    rw [signerKeys_compile h, List.cons_append, List.mem_cons]
    rfl
  rw [hsigning, mem_signing_iff, marked_namedKeys_iff merges_signs, hsigned, List.mem_cons]
  tauto

/-- The payer signs first, and once; behind it each of the others does. -/
theorem signerKeys_compile_perm {others : List Key}
    (h : compile payer instructions blockhash = .ok message) (hnodup : (payer :: others).Nodup)
    (hsigned : SignedBy (payer :: others) (instructions.flatMap mentions)) :
    ∃ signers, message.signerKeys = payer :: signers ∧ signers.Perm others := by
  have hperm : message.signerKeys.Perm (payer :: others) :=
    (List.perm_ext_iff_of_nodup (nodup_signerKeys h) hnodup).mpr fun _ =>
      mem_signerKeys_iff h hsigned
  have hfirst : message.signerKeys = payer :: signing (namedKeys payer instructions) :=
    signerKeys_compile h
  rw [hfirst] at hperm
  exact ⟨_, hfirst, hperm.cons_inv⟩

end LendingClient.Message
