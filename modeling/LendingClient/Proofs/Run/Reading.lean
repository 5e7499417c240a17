import LendingClient.Proofs.Run.Steady

/-!
# The accounts that an action reads

A ledger notes every call. What it notes of an action that only looks around are reads of accounts,
and which accounts these are may depend on what was read before them. The reads of an action are told
as a list: whatever the ledger answers, it notes some of these reads, in their order, and nothing
else. An action that stops early leaves out the reads at the end, and of reads that are asked
together a failure may keep some from being started.
-/

namespace LendingClient

namespace ScriptedLedger

/-- What was noted since are reads of some accounts among the given ones, in their order. -/
def OnlyRead (ledger later : ScriptedLedger) (keys : List Key) : Prop :=
  ∃ read : List Key, read.Sublist keys ∧
    later.calls.map (·.2) = (read.map Call.account).reverse ++ ledger.calls.map (·.2)

variable {ledger middle later : ScriptedLedger} {keys more : List Key}

/-- Where no call was noted, nothing was read. -/
theorem OnlyRead.of_calls_eq (h : later.calls = ledger.calls) : OnlyRead ledger later keys :=
  ⟨[], List.nil_sublist keys, by rw [h]; rfl⟩

/-- What is read first and what is read next are read one behind the other. -/
theorem OnlyRead.trans (first : OnlyRead ledger middle keys) (second : OnlyRead middle later more) :
    OnlyRead ledger later (keys ++ more) := by
  obtain ⟨read, hread, hmiddle⟩ := first
  obtain ⟨others, hothers, hlater⟩ := second
  refine ⟨read ++ others, hread.append hothers, ?_⟩
  rw [hlater, hmiddle]
  simp

/-- Where only some accounts were read, only accounts among more were read. -/
theorem OnlyRead.mono (h : OnlyRead ledger later keys) (hmore : keys.Sublist more) :
    OnlyRead ledger later more := by
  obtain ⟨read, hread, hlater⟩ := h
  exact ⟨read, hread.trans hmore, hlater⟩

/-- What was noted since are the reads of some accounts, in their order. -/
def HasRead (ledger later : ScriptedLedger) (keys : List Key) : Prop :=
  later.calls.map (·.2) = (keys.map Call.account).reverse ++ ledger.calls.map (·.2)

/-- Accounts that were read and those that were read next were read one behind the other. -/
theorem HasRead.trans (first : HasRead ledger middle keys) (second : HasRead middle later more) :
    HasRead ledger later (keys ++ more) := by
  unfold HasRead at *
  rw [second, first]
  simp

/-- What was noted tells which accounts were read. -/
theorem HasRead.unique (h : HasRead ledger later keys) (h' : HasRead ledger later more) :
    keys = more := by
  have hnoted := List.reverse_injective (List.append_cancel_right (h.symm.trans h'))
  exact List.map_injective_iff.mpr (fun _ _ => Call.account.inj) hnoted

/-- Every read is noted once. -/
theorem HasRead.length_calls (h : HasRead ledger later keys) :
    later.calls.length = keys.length + ledger.calls.length := by
  have hlength := congrArg List.length h
  simpa using hlength

/-- Reads that are asked together are noted in the order in which they are asked, as far as they were
started. -/
theorem exists_hasRead_accounts (ledger : ScriptedLedger) (queries : List Query) :
    ∃ read, read <+: queries.map (·.address) ∧
      HasRead ledger (ledger.answer (.accounts queries)).2 read := by
  obtain ⟨-, -, noted, hprefix, hcalls⟩ := ledger.startReads_spec queries
  obtain ⟨started, hstarted, rfl⟩ := List.prefix_map_iff.mp hprefix
  refine ⟨started.map (·.address), hstarted.map _, ?_⟩
  have hanswer : (ledger.answer (.accounts queries)).2.calls = (ledger.startReads queries).2.calls :=
    rfl
  have hforget (noted : List Call) : (noted.map fun call => (ledger.now, call)).map (·.2) = noted := by
    rw [List.map_map]
    exact List.map_id' noted
  rw [HasRead, hanswer, hcalls, List.map_append, List.map_reverse, hforget, List.map_map]
  rfl

private theorem onlyRead_accounts (ledger : ScriptedLedger) (queries : List Query) :
    OnlyRead ledger (ledger.answer (.accounts queries)).2 (queries.map (·.address)) := by
  obtain ⟨read, hprefix, hread⟩ := ledger.exists_hasRead_accounts queries
  exact ⟨read, hprefix.sublist, hread⟩

end ScriptedLedger

open ScriptedLedger

variable {α β γ : Type} {snapshot : Snapshot} {keys more : List Key}

namespace Action

/-- Of an action, every ledger with a snapshot notes only reads of some accounts, in their order. -/
structure Reads (snapshot : Snapshot) (keys : List Key) (action : Action α) : Prop where
  noted : ∀ ledger : ScriptedLedger, ledger.snapshot = snapshot →
    ledger.OnlyRead (ledger.play action.run).2 keys

namespace Reads

variable {action : Action α} {f : α → Action β}

/-- A value reads nothing. -/
theorem pure (value : α) : Reads snapshot keys (pure value : Action α) :=
  ⟨fun _ _ => .of_calls_eq rfl⟩

/-- An error reads nothing. -/
theorem throw (error : Error) : Reads snapshot keys (throw error : Action α) :=
  ⟨fun _ _ => .of_calls_eq rfl⟩

/-- To ask for an account reads it. -/
theorem account (address : Key) : Reads snapshot [address] (Action.account address) :=
  ⟨fun _ _ => ⟨[address], List.Sublist.refl _, rfl⟩⟩

/-- To ask for several accounts at once reads some of them, in their order. -/
theorem accounts (queries : List Query) :
    Reads snapshot (queries.map (·.address)) (Action.accounts queries) :=
  ⟨fun ledger _ => ledger.onlyRead_accounts queries⟩

/-- Making a key reads nothing. -/
theorem freshKey_bind (f : KeyPair → α) :
    Reads snapshot keys (Action.freshKey >>= fun pair => Pure.pure (f pair)) :=
  ⟨fun _ _ => .of_calls_eq rfl⟩

/-- What follows something that was worked out reads what it reads by itself. -/
theorem plan_bind {plan : Plan α} (hf : ∀ value, plan.value? = some value →
    Reads snapshot keys (f value)) : Reads snapshot keys ((liftM plan : Action α) >>= f) := by
  refine ⟨fun ledger hledger => ?_⟩
  rcases ledger.play_plan_bind plan f with ⟨value, hvalue, hplay⟩ | ⟨-, stop, -, hplay⟩
  · rw [hplay]
    exact (hf value hvalue).noted ledger hledger
  · rw [hplay]
    exact .of_calls_eq rfl

/-- What is worked out reads nothing. -/
theorem plan (plan : Plan α) : Reads snapshot keys (liftM plan : Action α) := by
  refine ⟨fun ledger _ => ?_⟩
  rw [play_plan]
  exact .of_calls_eq rfl

/-- One action after a steady one reads what both of them read. Of the second that is needed only
for the value of the first one. -/
theorem bind (hsteady : Steady snapshot action) (haction : Reads snapshot keys action)
    (hf : ∀ value, valueOn snapshot action = some value → Reads snapshot more (f value)) :
    Reads snapshot (keys ++ more) (action >>= f) := by
  refine ⟨fun ledger hledger => ?_⟩
  obtain ⟨ending, middle, hplay, htruth, hmoved⟩ := hsteady.ends ledger hledger
  have hmiddle := haction.noted ledger hledger
  rw [hplay] at hmiddle
  cases ending with
  | error error =>
    rw [play_action_error hplay]
    exact hmiddle.mono (List.sublist_append_left keys more)
  | ok value =>
    rw [play_action_ok hplay]
    exact hmiddle.trans ((hf value htruth.eq_some).noted middle (hmoved.snapshot.trans hledger))

/-- What follows may read nothing more. -/
theorem bind_nil (hsteady : Steady snapshot action) (haction : Reads snapshot keys action)
    (hf : ∀ value, Reads snapshot [] (f value)) : Reads snapshot keys (action >>= f) := by
  have hboth := bind hsteady haction fun value _ => hf value
  rwa [List.append_nil] at hboth

end Reads

end Action

namespace Read

open LendingClient.Action

variable (read : Read α) (a : Read α) (b : Read β) (c : Read γ)

/-- A read reads its account. -/
theorem reads_perform : Reads snapshot [read.address] read.perform :=
  .bind_nil (Steady.account _) (.account _) fun _ => .plan _

/-- Two reads at once read their accounts. -/
theorem reads_both : Reads snapshot [a.address, b.address] (both a b) := by
  refine .bind_nil (Steady.accounts _) (.accounts [a.query, b.query]) fun data => ?_
  refine .plan_bind fun first _ => ?_
  exact .plan_bind fun second _ => .pure _

/-- Three reads at once read their accounts. -/
theorem reads_allThree : Reads snapshot [a.address, b.address, c.address] (allThree a b c) := by
  refine .bind_nil (Steady.accounts _) (.accounts [a.query, b.query, c.query]) fun data => ?_
  refine .plan_bind fun first _ => ?_
  refine .plan_bind fun second _ => ?_
  exact .plan_bind fun third _ => .pure _

end Read

end LendingClient
