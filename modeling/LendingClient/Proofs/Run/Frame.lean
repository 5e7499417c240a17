import LendingClient.Proofs.Run.Retiming

/-!
# What a run depends on

Of the accounts that a ledger holds, a task that only looks at them sees those that it reads. So two
ledgers on which these hold the same data carry it to the same result, if they take the same time for
their reads and fail the same ones. If the time is different, but no read fails, the result can be
another one only where several reads are asked together and more than one of them will not do.
-/

namespace LendingClient

/-- A task only looks at accounts, but that it may make one pair of keys at its end. -/
def Task.Surveys {α : Type} : Task α → Prop
  | .done _ | .abort _ => True
  | .ask .freshKey next => ∀ pair, (next pair).Asks fun _ => False
  | .ask call next => call.Looks ∧ ∀ answer, (next answer).Surveys
  | .race .. => False

section Surveys

variable {α β : Type}

/-- What surveys after something that only looks at accounts surveys. -/
theorem Task.Asks.bind_surveys {task : Task α} {f : α → Task β} (htask : task.Asks Call.Looks)
    (hf : ∀ value, (f value).Surveys) : (task.bind f).Surveys := by
  induction task with
  | done value => exact hf value
  | abort => trivial
  | ask call next ih =>
    obtain ⟨hcall, hnext⟩ := htask
    cases call with
    | account | accounts => exact ⟨hcall, fun answer => ih answer (hnext answer)⟩
    | _ => exact hcall.elim
  | race => exact htask.elim

/-- A task that only looks at accounts surveys them. -/
theorem Task.Asks.surveys {task : Task α} (htask : task.Asks Call.Looks) : task.Surveys := by
  have hbind := htask.bind_surveys (f := .done) fun _ => trivial
  rwa [Task.bind_done] at hbind

/-- To look at accounts before a survey is a survey. -/
theorem Action.surveys_bind {action : Action α} {f : α → Action β}
    (haction : action.run.Asks Call.Looks) (hf : ∀ value, (f value).run.Surveys) :
    (action >>= f).run.Surveys := by
  refine haction.bind_surveys fun result => ?_
  cases result with
  | ok value => exact hf value
  | error => trivial

end Surveys

namespace ScriptedLedger

variable {α β : Type} {ledger other : ScriptedLedger}

/-- Two ledgers take the same time for their reads and fail the same ones, and the next fresh pair of
keys is the same. -/
structure Paced (ledger other : ScriptedLedger) : Prop where
  reads : other.script.accountReads = ledger.script.accountReads
  fresh : other.snapshot.fresh = ledger.snapshot.fresh

/-- Two ledgers hold the same data at some addresses. -/
def AgreeOn (keys : List Key) (ledger other : ScriptedLedger) : Prop :=
  ∀ key ∈ keys, other.accounts.get? key = ledger.accounts.get? key

/-- The ledger with other accounts. -/
def holding (ledger : ScriptedLedger) (accounts : Accounts) : ScriptedLedger :=
  { ledger with accounts := accounts }

/-- The ledger that holds other accounts holds these. -/
theorem accounts_holding (ledger : ScriptedLedger) (accounts : Accounts) :
    (ledger.holding accounts).accounts = accounts :=
  rfl

/-- The reads of a ledger that holds other accounts take as long, and its next pair of keys is the
same. -/
theorem paced_holding (ledger : ScriptedLedger) (accounts : Accounts) :
    Paced ledger (ledger.holding accounts) :=
  ⟨rfl, rfl⟩

/-- Something that a ledger does comes out the same on every other ledger that keeps the same pace and
agrees on some accounts. No account is changed. -/
structure Framed (act : ScriptedLedger → β × ScriptedLedger) (ledger : ScriptedLedger)
    (keys : List Key) : Prop where
  reads : HasRead ledger (act ledger).2 keys
  accounts : (act ledger).2.accounts = ledger.accounts
  same : ∀ other, Paced ledger other → AgreeOn keys ledger other →
    (act other).1 = (act ledger).1 ∧ Paced (act ledger).2 (act other).2 ∧
      (act other).2.accounts = other.accounts

/-- Two ledgers still agree after something that changed no account. -/
theorem AgreeOn.of_accounts {keys : List Key} {later otherLater : ScriptedLedger}
    (h : AgreeOn keys ledger other) (haccounts : later.accounts = ledger.accounts)
    (hother : otherLater.accounts = other.accounts) : AgreeOn keys later otherLater := by
  unfold AgreeOn at *
  rwa [haccounts, hother]

/-- One thing after another depends on what both of them read. -/
theorem Framed.trans {act : ScriptedLedger → α × ScriptedLedger}
    {next : α → ScriptedLedger → β × ScriptedLedger} {keys more : List Key}
    (h : Framed act ledger keys) (hnext : Framed (next (act ledger).1) (act ledger).2 more) :
    Framed (fun ledger => next (act ledger).1 (act ledger).2) ledger (keys ++ more) := by
  refine ⟨h.reads.trans hnext.reads, hnext.accounts.trans h.accounts, fun other hpaced hagree => ?_⟩
  obtain ⟨hagree, hmore⟩ := List.forall_mem_append.mp hagree
  obtain ⟨hsame, hlater, haccounts⟩ := h.same other hpaced hagree
  have hagree : AgreeOn more ledger other := hmore
  obtain ⟨hresult, hend, hunchanged⟩ :=
    hnext.same _ hlater (hagree.of_accounts h.accounts haccounts)
  rw [hsame]
  exact ⟨hresult, hend, hunchanged.trans haccounts⟩

/-- A read that is started depends on its account. -/
theorem framed_startRead (query : Query) :
    Framed (fun ledger => ledger.startRead query) ledger [query.address] := by
  refine ⟨rfl, rfl, fun other hpaced hagree => ?_⟩
  have houtcome (ledger : ScriptedLedger) : (ledger.startRead query).1 =
      ⟨wakesFrom 0 (nextAnswer () ledger.script.accountReads).1.waits,
        ((nextAnswer () ledger.script.accountReads).1.answer.map fun _ =>
          ledger.accounts.get? query.address) >>= fun data =>
            query.accept data >>= fun _ => pure data⟩ := rfl
  have hreads (ledger : ScriptedLedger) : (ledger.startRead query).2.script.accountReads =
      (nextAnswer () ledger.script.accountReads).2 := rfl
  refine ⟨?_, ⟨?_, hpaced.fresh⟩, rfl⟩
  · rw [houtcome, houtcome, hpaced.reads, hagree _ (List.mem_singleton_self _)]
  · rw [hreads, hreads, hpaced.reads]

/-- Something that is worked out from what was done depends on nothing more. -/
theorem Framed.map {act : ScriptedLedger → α × ScriptedLedger} {keys : List Key} (f : α → β)
    (h : Framed act ledger keys) :
    Framed (fun ledger => (f (act ledger).1, (act ledger).2)) ledger keys := by
  refine ⟨h.reads, h.accounts, fun other hpaced hagree => ?_⟩
  obtain ⟨hsame, hlater, haccounts⟩ := h.same other hpaced hagree
  exact ⟨congrArg f hsame, hlater, haccounts⟩

/-- To do nothing depends on nothing. -/
theorem framed_done (value : α) : Framed (fun ledger => (value, ledger)) ledger [] :=
  ⟨rfl, rfl, fun _ hpaced _ => ⟨rfl, hpaced, rfl⟩⟩

/-- Reads that are started in a row depend on the accounts of those that are started. -/
theorem exists_framed_startReads (queries : List Query) (ledger : ScriptedLedger) :
    ∃ keys, Framed (fun ledger => ledger.startReads queries) ledger keys := by
  induction queries generalizing ledger with
  | nil => exact ⟨[], framed_done []⟩
  | cons query queries ih =>
    let next (read : RunningRead) (later : ScriptedLedger) : List RunningRead × ScriptedLedger :=
      if read.wakes.isEmpty && read.error?.isSome then ([read], later)
      else (read :: (later.startReads queries).1, (later.startReads queries).2)
    obtain ⟨more, hmore⟩ : ∃ more,
        Framed (next (ledger.startRead query).1) (ledger.startRead query).2 more := by
      unfold next
      split
      · exact ⟨[], framed_done _⟩
      · obtain ⟨more, hmore⟩ := ih (ledger.startRead query).2
        exact ⟨more, hmore.map _⟩
    exact ⟨[query.address] ++ more, (framed_startRead query).trans hmore⟩

/-- What a call that looks at accounts is answered depends on those that are read for it. -/
theorem exists_framed_answer {call : Call} (hcall : call.Looks) (ledger : ScriptedLedger) :
    ∃ keys, Framed (fun ledger => ledger.answer call) ledger keys := by
  cases call with
  | account address =>
    have hanswer (ledger : ScriptedLedger) : (ledger.answer (.account address)).1 =
        (nextAnswer () ledger.script.accountReads).1.answer.map fun _ =>
          ledger.accounts.get? address := rfl
    have hreads (ledger : ScriptedLedger) :
        (ledger.answer (.account address)).2.script.accountReads =
          (nextAnswer () ledger.script.accountReads).2 := rfl
    refine ⟨[address], rfl, rfl, fun other hpaced hagree => ⟨?_, ⟨?_, hpaced.fresh⟩, rfl⟩⟩
    · rw [hanswer, hanswer, hpaced.reads, hagree _ (List.mem_singleton_self _)]
    · rw [hreads, hreads, hpaced.reads]
  | accounts queries =>
    obtain ⟨keys, hreads, haccounts, hsame⟩ := exists_framed_startReads queries ledger
    refine ⟨keys, hreads, haccounts, fun other hpaced hagree => ?_⟩
    obtain ⟨hstarted, hlater, hunchanged⟩ := hsame other hpaced hagree
    have hanswer (ledger : ScriptedLedger) : (ledger.answer (.accounts queries)).1 =
        (together (ledger.startReads queries).1).2 := rfl
    refine ⟨?_, ⟨hlater.reads, hlater.fresh⟩, hunchanged⟩
    rw [hanswer, hanswer, hstarted]
  | _ => exact hcall.elim

end ScriptedLedger

open ScriptedLedger

variable {α β : Type} {ledger other : ScriptedLedger} {task : Task α}

/-- What makes no calls comes to the same end on every ledger, and leaves it as it is. -/
theorem Task.play_idle (htask : task.Asks fun _ => False) (ledger other : ScriptedLedger) :
    (other.play task).1 = (ledger.play task).1 ∧ (ledger.play task).2 = ledger := by
  cases task with
  | done | abort => exact ⟨rfl, rfl⟩
  | ask => exact htask.1.elim
  | race => exact htask.elim

/-- What a ledger makes of a task that only looks at accounts depends on the data of those that it
reads, and on nothing else that it holds. -/
theorem Task.Surveys.exists_frame (htask : task.Surveys) (ledger : ScriptedLedger) :
    ∃ read, HasRead ledger (ledger.play task).2 read ∧
      ∀ other, Paced ledger other → AgreeOn read ledger other →
        (other.play task).1 = (ledger.play task).1 := by
  induction task generalizing ledger with
  | done | abort => exact ⟨[], rfl, fun _ _ _ => rfl⟩
  | ask call next ih =>
    cases call with
    | freshKey =>
      have hnoted : HasRead ledger (ledger.answer .freshKey).2 [] := rfl
      have hpair (ledger : ScriptedLedger) : (ledger.answer .freshKey).1 = ledger.snapshot.fresh :=
        rfl
      refine ⟨[], ?_, fun other hpaced _ => ?_⟩
      · rw [play_ask, (Task.play_idle (htask _) _ ledger).2]
        exact hnoted
      · rw [play_ask, play_ask, hpair, hpair, hpaced.fresh]
        exact (Task.play_idle (htask _) _ _).1
    | account | accounts =>
      obtain ⟨hcall, hnext⟩ := htask
      obtain ⟨keys, hread, haccounts, hsame⟩ := exists_framed_answer hcall ledger
      obtain ⟨more, hmore, hrest⟩ := ih _ (hnext _) (ledger.answer _).2
      refine ⟨keys ++ more, hread.trans hmore, fun other hpaced hagree => ?_⟩
      obtain ⟨hagree, hagreeMore⟩ := List.forall_mem_append.mp hagree
      obtain ⟨hanswer, hlater, hunchanged⟩ := hsame other hpaced hagree
      have hagreeMore : AgreeOn more ledger other := hagreeMore
      rw [play_ask, play_ask, hanswer]
      exact hrest _ hlater (hagreeMore.of_accounts haccounts hunchanged)
    | _ => exact htask.1.elim
  | race => exact htask.elim

/-- Of reads that are asked together on the way, never more than one will not do. Tasks that race a
call are left out. -/
def Task.Undisputed : Task α → ScriptedLedger → Prop
  | .done _, _ | .abort _, _ => True
  | .ask call next, ledger =>
    (∀ queries, call = .accounts queries → (ledger.faults queries).length ≤ 1) ∧
      (next (ledger.answer call).1).Undisputed (ledger.answer call).2
  | .race .., _ => False

/-- Reads that are asked together are answered alike whatever the delays, if no more than one of them
will not do. -/
theorem ScriptedLedger.Retimed.answer_accounts_of_le {queries : List Query}
    (h : Retimed ledger other) (hfaults : (ledger.faults queries).length ≤ 1) :
    (other.answer (.accounts queries)).1 = (ledger.answer (.accounts queries)).1 := by
  have hsame := h.faults_together queries
  by_cases hnone : ledger.faults queries = []
  · rw [answer_accounts_eq hnone, answer_accounts_eq (hsame.trans hnone), h.outcomes]
  · obtain ⟨error, hmem, hanswer⟩ := exists_answer_accounts_eq_error hnone
    obtain ⟨otherError, hother, hotherAnswer⟩ :=
      exists_answer_accounts_eq_error (hsame.trans_ne hnone)
    rw [hsame] at hother
    rw [hanswer, hotherAnswer, eq_of_mem_of_length_le_one hfaults hother hmem]

/-- Looking at accounts leaves everything as it is. -/
theorem ScriptedLedger.unmoved_answer {call : Call} (ledger : ScriptedLedger) (hcall : call.Looks) :
    Unmoved ledger (ledger.answer call).2 := by
  cases call with
  | account address => exact (ledger.answer_account_truthful address).1
  | accounts queries => exact (ledger.answer_accounts_truthful queries).1
  | _ => exact hcall.elim

/-- While no account changes and no read fails, the delays change nothing about what a ledger makes of
a task that only looks at accounts, unless several reads that are asked together will not do. -/
theorem Task.Surveys.play_undisputed (htask : task.Surveys) (hledger : ledger.Answers)
    (hother : other.Answers) (hsnapshot : other.snapshot = ledger.snapshot)
    (hundisputed : task.Undisputed ledger) : (other.play task).1 = (ledger.play task).1 := by
  induction task generalizing ledger other with
  | done | abort => rfl
  | ask call next ih =>
    have hretimed := retimed_of_answers (congrArg Snapshot.accounts hsnapshot) hledger hother
    obtain ⟨hfaults, hlater⟩ := hundisputed
    have hstep (hlooks : call.Looks) (hnext : ∀ answer, (next answer).Surveys)
        (hsame : (other.answer call).1 = (ledger.answer call).1) :
        (other.play (.ask call next)).1 = (ledger.play (.ask call next)).1 := by
      have hmoved := ledger.unmoved_answer hlooks
      have hotherMoved := other.unmoved_answer hlooks
      rw [play_ask, play_ask, hsame]
      exact ih _ (hnext _) (hmoved.answers hledger) (hotherMoved.answers hother)
        (hotherMoved.snapshot.trans (hsnapshot.trans hmoved.snapshot.symm)) hlater
    cases call with
    | freshKey =>
      have hpair (ledger : ScriptedLedger) : (ledger.answer .freshKey).1 = ledger.snapshot.fresh :=
        rfl
      rw [play_ask, play_ask, hpair, hpair, hsnapshot]
      exact (Task.play_idle (htask _) _ _).1
    | account address => exact hstep htask.1 htask.2 (hretimed.answer_account address).1
    | accounts queries =>
      exact hstep htask.1 htask.2 (hretimed.answer_accounts_of_le (hfaults queries rfl))
    | _ => exact htask.1.elim
  | race => exact htask.elim

end LendingClient
