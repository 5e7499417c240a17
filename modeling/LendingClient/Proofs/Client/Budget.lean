import Mathlib.Data.List.Basic
import LendingClient.Proofs.Client.Course

/-!
# How attempts are spent

A run has one attempt more than it has retries. It makes another one only if the ledger failed in
the last one, whichever call it was that failed, and any other error is the run's at once. Once a
transaction was taken there are no more attempts, and before that there is no polling.
-/

namespace LendingClient

/-- The calls that may follow upon a transaction that was taken: polling, and the read of the user's
loan. -/
def Call.FollowsUp (loan : Key) : Call → Prop
  | .sleep _ | .status _ | .validity _ | .simulate _ => True
  | .account address => address = loan
  | _ => False

/-- Polling for a transaction is part of what follows upon it. -/
private theorem SignedBatch.Watches.followsUp {signed : SignedBatch} {polling : Polling}
    {signature : Signature} {call : Call} (loan : Key)
    (h : signed.Watches polling signature call) : call.FollowsUp loan := by
  cases call <;> simp_all [Watches, Call.FollowsUp]

/-- Handing a transaction in is not what follows upon one. -/
private theorem Exchange.Taken.not_followsUp {exchange : Exchange} {loan : Key}
    (h : exchange.Taken) : ¬exchange.call.FollowsUp loan := by
  obtain ⟨transaction, asked, signature, due, rfl⟩ := h
  exact id

/-- The error of an outcome is no failure of the ledger. -/
theorem Outcome.result_ne_ledger {outcome : Outcome} {error : Error}
    (h : outcome.result = .error error) (reason : String) : error ≠ .ledger reason := by
  rintro rfl
  cases outcome <;> cases h

namespace Client

variable (client : Client) (operation : Operation) (signer : Signer) (cancel : Option Nat)

/-- How a run spends its attempts. `tries` are all that it makes, and `after` is what follows upon
them. -/
structure Spends (tries : List Try) (after exchanges : List Exchange)
    (result : Except Abort (Except Error Receipt)) : Prop where
  exchanges_eq : exchanges = tries.flatMap Try.exchanges ++ after
  /-- Each attempt starts from the transaction that the one before it left, the first from none. -/
  tries_of_key : ∀ owner, signer.key = .ok owner →
    ∃ begun done, Tries client operation owner signer cancel none begun tries done
  /-- Nothing at all is attempted for a signer that cannot say its key. -/
  tries_of_keyless : ∀ reason, signer.key = .error reason →
    exchanges = [] ∧ tries = [] ∧ result = .ok (.error (.sign (.signer reason)))
  length_le : tries.length ≤ client.retries + 1
  length_sent_le : (exchanges.filterMap Exchange.sent?).length ≤ client.retries + 1
  /-- There is another attempt only after one in which the ledger failed. -/
  lost : ∀ attempt ∈ tries.dropLast, attempt.Lost
  /-- The ledger failed in an attempt if it answered a call so. -/
  answered : ∀ attempt ∈ tries, ∀ reason kept,
    attempt.ending = .ok (.failed (.ledger reason) kept) →
      ∃ exchange ∈ attempt.exchanges, exchange.error? = some (.ledger reason)
  /-- Any other error ends the run at once. -/
  failed : ∀ attempt ∈ tries, ∀ error kept, attempt.ending = .ok (.failed error kept) →
    (∀ reason, error ≠ .ledger reason) →
      tries.getLast? = some attempt ∧ after = [] ∧ result = .ok (.error error)
  /-- The run fails with the ledger when all attempts are used up. -/
  result_ledger_iff : ∀ reason, result = .ok (.error (.ledger reason)) ↔
    tries.length = client.retries + 1 ∧ (∀ attempt ∈ tries, attempt.Lost) ∧
      ∃ last ∈ tries.getLast?, ∃ kept, last.ending = .ok (.failed (.ledger reason) kept)
  /-- There is no polling before a transaction is taken. -/
  polls : ∀ before exchange later, exchanges = before ++ exchange :: later →
    exchange.call.Polls → ∃ sent ∈ before, sent.Taken
  /-- The attempts are over as soon as a transaction is taken. -/
  taken : ∀ before sent later, exchanges = before ++ sent :: later → sent.Taken →
    tries.flatMap Try.exchanges = before ++ [sent] ∧ later = after
  follows : ∀ exchange ∈ after, ∃ owner, signer.key = .ok owner ∧
    exchange.call.FollowsUp (Address.userLoan client.deployment.program owner).1

variable {client operation signer cancel} {owner : Key} {held : Option Held} {start finish : Nat}
  {before later after exchanges : List Exchange} {exchange sent : Exchange} {loan : Key}

/-- In a run that goes on after a transaction was taken, polling comes later. -/
theorem taken_of_polls (hnone : ∀ exchange ∈ exchanges ++ [sent], ¬exchange.call.Polls)
    (htaken : sent.Taken) (hsplit : exchanges ++ [sent] ++ after = before ++ exchange :: later)
    (hpolls : exchange.call.Polls) : ∃ sent ∈ before, sent.Taken := by
  refine ⟨sent, ?_, htaken⟩
  rcases List.append_eq_append_iff.mp hsplit with ⟨more, rfl, -⟩ | ⟨rest, hrest, hlater⟩
  · simp
  · cases rest with
    | nil =>
      rw [List.append_nil] at hrest
      simp [← hrest]
    | cons first rest =>
      obtain ⟨rfl, -⟩ := List.cons.inj hlater
      exact absurd hpolls (hnone exchange (by simp [hrest]))

/-- In a run that goes on after a transaction was taken, no other one is. -/
theorem eq_of_taken (hnone : ∀ exchange ∈ exchanges, ¬exchange.Taken)
    (hfollows : ∀ exchange ∈ after, exchange.call.FollowsUp loan)
    (hsplit : exchanges ++ [exchange] ++ after = before ++ sent :: later) (htaken : sent.Taken) :
    exchanges ++ [exchange] = before ++ [sent] ∧ later = after := by
  rw [List.append_assoc, List.singleton_append] at hsplit
  have hfirst : sent ∉ exchanges := fun hmem => hnone sent hmem htaken
  have hlater : sent ∉ after := fun hmem => htaken.not_followsUp (hfollows sent hmem)
  obtain ⟨rfl, rfl, rfl⟩ := (List.append_cons_inj_of_notMem hfirst hlater).mp hsplit
  exact ⟨rfl, rfl⟩

variable {retries : Nat} {lost : List Try} {final : Try}

/-- An attempt that fails without the ledger is the last one. -/
theorem Exhausts.eq_final
    (h : Exhausts client operation owner signer cancel retries held start lost final finish)
    {attempt : Try} (hmem : attempt ∈ lost ++ [final]) {error : Error} {kept : Option Held}
    (hended : attempt.ending = .ok (.failed error kept))
    (herror : ∀ reason, error ≠ .ledger reason) :
    attempt = final := by
  rcases List.mem_append.mp hmem with hlost | hfinal
  · obtain ⟨reason, other, hledger⟩ := h.all_lost attempt hlost
    cases hended.symm.trans hledger
    exact absurd rfl (herror reason)
  · exact List.mem_singleton.mp hfinal

/-- The last attempt failed with the ledger when all attempts are used up. -/
theorem Exhausts.ledger_iff
    (h : Exhausts client operation owner signer cancel retries held start lost final finish)
    (reason : String) :
    (∃ kept, final.ending = .ok (.failed (.ledger reason) kept)) ↔
      (lost ++ [final]).length = retries + 1 ∧ (∀ attempt ∈ lost ++ [final], attempt.Lost) ∧
        ∃ last ∈ (lost ++ [final]).getLast?, ∃ kept,
          last.ending = .ok (.failed (.ledger reason) kept) := by
  constructor
  · rintro ⟨kept, hended⟩
    have hfinal : final.Lost := ⟨reason, kept, hended⟩
    refine ⟨by simp [h.length_eq hfinal], ?_, final, by simp, kept, hended⟩
    exact List.forall_mem_append.mpr ⟨h.all_lost, List.forall_mem_singleton.mpr hfinal⟩
  · rintro ⟨-, -, last, hlast, hended⟩
    rw [List.getLast?_concat, Option.mem_some_iff] at hlast
    subst hlast
    exact hended

/-- The error that a failed attempt of the ledger ends with was an answer. -/
theorem Exhausts.answered
    (h : Exhausts client operation owner signer cancel retries held start lost final finish)
    {attempt : Try} (hmem : attempt ∈ lost ++ [final]) {reason : String} {kept : Option Held}
    (hended : attempt.ending = .ok (.failed (.ledger reason) kept)) :
    ∃ exchange ∈ attempt.exchanges, exchange.error? = some (.ledger reason) := by
  obtain ⟨before, attempted⟩ := h.tries.attempted attempt hmem
  rcases attempted.error hended with hown | hanswered
  · exact hown.elim
  · exact hanswered

/-- A run that makes no attempt at all spends none. -/
theorem spends_keyless {reason : String} (hkey : signer.key = .error reason) :
    Spends client operation signer cancel [] [] [] (.ok (.error (.sign (.signer reason)))) where
  exchanges_eq := rfl
  tries_of_key owner howner := nomatch hkey.symm.trans howner
  tries_of_keyless other hother := by
    cases hkey.symm.trans hother
    exact ⟨rfl, rfl, rfl⟩
  length_le := Nat.zero_le _
  length_sent_le := Nat.zero_le _
  lost := by simp
  answered := by simp
  failed := by simp
  result_ledger_iff reason := iff_of_false nofun fun h => nomatch h.1
  polls before exchange later hsplit := by simp at hsplit
  taken before sent later hsplit := by simp at hsplit
  follows := by simp

/-- A run spends its attempts as it should if no transaction is taken. -/
theorem Exhausts.spends_untaken {stop : Except Abort Error} (hkey : signer.key = .ok owner)
    (h : Exhausts client operation owner signer cancel client.retries none start lost final finish)
    (hstop : final.result = stop.map .error) :
    Spends client operation signer cancel (lost ++ [final]) []
      ((lost ++ [final]).flatMap Try.exchanges) (stop.map .error) := by
  have hsent : ∀ current signature, final.ending ≠ .ok (.sent current signature) := by
    intro current signature hsent
    rw [Try.result, hsent] at hstop
    cases stop <;> cases hstop
  have hresult (error : Error) : (stop.map .error : Except Abort (Except Error Receipt)) =
      .ok (.error error) ↔ ∃ kept, final.ending = .ok (.failed error kept) := by
    rw [← Try.result_eq_error_iff, hstop]
    cases stop <;> simp [Except.map]
  refine
    { exchanges_eq := (List.append_nil _).symm
      tries_of_key := fun other hother => ?_
      tries_of_keyless := fun reason hreason => by cases hkey.symm.trans hreason
      length_le := by simpa using h.length_le
      length_sent_le := Nat.le_trans h.length_sent_le (by simpa using h.length_le)
      lost := by simpa using h.all_lost
      answered := fun attempt hmem reason kept => h.answered hmem
      failed := fun attempt hmem error kept hended herror => ?_
      result_ledger_iff := fun reason => (hresult _).trans (h.ledger_iff reason)
      polls := fun before exchange later hsplit hpolls => ?_
      taken := fun before sent later hsplit htaken => ?_
      follows := by simp }
  · cases hkey.symm.trans hother
    exact ⟨start, finish, h.tries⟩
  · obtain rfl := h.eq_final hmem hended herror
    exact ⟨by simp, rfl, (hresult error).mpr ⟨kept, hended⟩⟩
  · exact absurd hpolls (h.not_polls exchange (by simp [hsplit]))
  · exact absurd htaken (h.not_taken hsent sent (by simp [hsplit]))

/-- A run spends its attempts as it should if a transaction is taken. -/
theorem Exhausts.spends_taken {current : Held} {signature : Signature}
    {result : Except Abort (Except Error Receipt)} (hkey : signer.key = .ok owner)
    (h : Exhausts client operation owner signer cancel client.retries none start lost final finish)
    (hsent : final.ending = .ok (.sent current signature))
    (hfollows : ∀ exchange ∈ after,
      exchange.call.FollowsUp (Address.userLoan client.deployment.program owner).1)
    (hresult : ∀ reason, result ≠ .ok (.error (.ledger reason))) :
    Spends client operation signer cancel (lost ++ [final]) after
      ((lost ++ [final]).flatMap Try.exchanges ++ after) result := by
  obtain ⟨sending, asked, due, hsending, hnone⟩ := h.taken hsent
  have hafter : after.filterMap Exchange.sent? = [] :=
    filterMap_sent?_of_not_sends fun exchange hmem hsends => by
      have := hfollows exchange hmem
      revert this hsends
      cases exchange.call <;> simp [Call.Sends, Call.FollowsUp]
  refine
    { exchanges_eq := rfl
      tries_of_key := fun other hother => ?_
      tries_of_keyless := fun reason hreason => by cases hkey.symm.trans hreason
      length_le := by simpa using h.length_le
      length_sent_le := ?_
      lost := by simpa using h.all_lost
      answered := fun attempt hmem reason kept => h.answered hmem
      failed := fun attempt hmem error kept hended herror => ?_
      result_ledger_iff := fun reason => ?_
      polls := fun before exchange later hsplit hpolls => ?_
      taken := fun before sent later hsplit htaken => ?_
      follows := fun exchange hmem => ⟨owner, hkey, hfollows exchange hmem⟩ }
  · cases hkey.symm.trans hother
    exact ⟨start, finish, h.tries⟩
  · rw [List.filterMap_append, hafter, List.append_nil]
    exact Nat.le_trans h.length_sent_le (by simpa using h.length_le)
  · obtain rfl := h.eq_final hmem hended herror
    cases hsent.symm.trans hended
  · refine iff_of_false (hresult reason) fun hall => ?_
    obtain ⟨kept, hended⟩ := (h.ledger_iff reason).mpr hall
    cases hsent.symm.trans hended
  · rw [hsending] at hsplit
    exact taken_of_polls (hsending ▸ h.not_polls) ⟨_, _, _, _, rfl⟩ hsplit hpolls
  · rw [hsending] at hsplit ⊢
    exact eq_of_taken hnone hfollows hsplit htaken

/-- Everything that follows upon a transaction that was taken follows it up. -/
theorem followsUp_of_watch {taken : HandedIn} {polling : List Exchange} {outcome : Outcome}
    (watched : (client.watch taken).Ends cancel start polling (.ok outcome) finish) :
    ∀ exchange ∈ polling, exchange.call.FollowsUp loan := fun exchange hmem =>
  ((taken.held.signed.only_confirm client.polling taken.signature).of_mem watched exchange
    hmem).followsUp loan

/-- The read of the loan is part of what follows upon a transaction. -/
private theorem Reread.followsUp {reading : List Exchange} {found : Option UserLoan}
    (reread : Reread client operation owner reading found) : ∀ exchange ∈ reading,
      exchange.call.FollowsUp (Address.userLoan client.deployment.program owner).1 := by
  intro exchange hmem
  rw [reread.calls exchange hmem]
  rfl

/-- Whatever the ledger answers and whenever the caller wishes to cancel, a run spends its attempts
as it should. -/
theorem execute_spends {result : Except Abort (Except Error Receipt)}
    (run : (client.execute operation signer).run.Ends cancel start exchanges result finish) :
    ∃ tries after, Spends client operation signer cancel tries after exchanges result := by
  cases course_of_ends run with
  | keyless hkey => exact ⟨[], [], spends_keyless hkey⟩
  | untaken hkey hexhausts hstopped => exact ⟨_, _, hexhausts.spends_untaken hkey hstopped⟩
  | unconfirmed hkey hexhausts hsent hwatched hended =>
    refine ⟨_, _, hexhausts.spends_taken hkey hsent (followsUp_of_watch hwatched) ?_⟩
    intro reason hledger
    exact Outcome.result_ne_ledger hended reason (Except.error.inj (Except.ok.inj hledger))
  | confirmed hkey hexhausts hsent hwatched hended hreread =>
    refine ⟨_, _, hexhausts.spends_taken hkey hsent ?_ nofun⟩
    exact List.forall_mem_append.mpr ⟨followsUp_of_watch hwatched, hreread.followsUp⟩

/-- A ledger that is too busy for three reads of accounts. -/
def busyLedger : ScriptedLedger where
  script := { accountReads := List.replicate 3 ⟨[], .error (.ledger "busy")⟩ }

/-- There, a run with two retries is out of attempts. -/
theorem execute_spends_busy :
    (sample.execute .sample .sample).run.Ends none 0
        (busyLedger.exchanges (sample.execute .sample .sample).run)
        (.ok (.error (.ledger "busy"))) 0 ∧
      ∃ tries after, Spends sample .sample .sample none tries after
          (busyLedger.exchanges (sample.execute .sample .sample).run)
          (.ok (.error (.ledger "busy"))) ∧
        tries.length = 3 := by
  have hrun := (ScriptedLedger.ends_play (sample.execute .sample .sample).run busyLedger).1
  have hresult : (busyLedger.play (sample.execute .sample .sample).run).1 =
      .ok (.error (.ledger "busy")) := by decide +kernel
  have hnow : (busyLedger.play (sample.execute .sample .sample).run).2.now = 0 := by decide +kernel
  rw [hresult, hnow] at hrun
  obtain ⟨tries, after, hspends⟩ := execute_spends hrun
  exact ⟨hrun, tries, after, hspends, ((hspends.result_ledger_iff "busy").mp rfl).1⟩

end Client

end LendingClient
