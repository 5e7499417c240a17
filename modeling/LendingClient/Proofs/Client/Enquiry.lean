import LendingClient.Proofs.Client.Budget
import LendingClient.Proofs.Submission.Enquiry

/-!
# Whether the ledger is asked

A client that was made from checked settings may make a poll. Any such client has asked the ledger
about a transaction that was taken before it calls the transaction expired. A client that was made
without the check may be one that makes no poll: then the transaction is called expired as soon as
it was taken, and the ledger is never asked.
-/

namespace LendingClient

/-- The signature that handing a transaction in was answered with. -/
def Exchange.taken? : Exchange → Option Signature
  | ⟨.send _, _, answer, _⟩ => Except.toOption (ε := Error) answer
  | _ => none

/-- A transaction was taken if handing it in was answered with a signature. -/
private theorem Exchange.taken_iff {exchange : Exchange} :
    exchange.Taken ↔ ∃ signature, exchange.taken? = some signature := by
  constructor
  · rintro ⟨transaction, asked, signature, due, rfl⟩
    exact ⟨signature, rfl⟩
  · obtain ⟨call, asked, answer, due⟩ := exchange
    rintro ⟨signature, htaken⟩
    cases call <;> try cases htaken
    cases answer <;> cases htaken
    exact ⟨_, _, _, _, rfl⟩

/-- Settings that pass the check allow a poll. -/
theorem Settings.maxPolls_pos {settings : Settings} (h : settings.validate = .ok ()) :
    0 < settings.polling.maxPolls := by
  unfold validate at h
  split_ifs at h with hnode hprogram hpolls
  exact Nat.pos_of_ne_zero fun hzero => hpolls (.inl hzero)

namespace Client

/-- A client of checked settings may make a poll. -/
theorem maxPolls_pos_of_checked {settings : Settings} {client : Client}
    (h : ofChecked settings = .ok client) : 0 < client.polling.maxPolls := by
  unfold ofChecked at h
  cases hvalid : settings.validate with
  | error => rw [hvalid] at h; cases h
  | ok =>
    rw [hvalid] at h
    obtain rfl := Except.ok.inj h
    exact Settings.maxPolls_pos hvalid

/-- What follows upon a transaction that was taken, and the signature that it was taken with. -/
def Follows (exchanges : List Exchange) (signature : Signature) (later : List Exchange) : Prop :=
  ∃ before sent, exchanges = before ++ sent :: later ∧ sent.taken? = some signature

variable (client : Client)

/-- What a run that nobody cancels has asked the ledger when it calls its transaction expired. -/
structure Enquires (exchanges : List Exchange) (reason : ExpiryReason) : Prop where
  /-- After a transaction was taken the ledger is asked about it if the client may make a poll, and
  only then. -/
  asks_iff : ∀ signature later, Follows exchanges signature later →
    ((∃ exchange ∈ later, exchange.asked? = some signature) ↔ 0 < client.polling.maxPolls)
  /-- It is asked about nothing else, once in each poll. -/
  asked : ∀ signature later, Follows exchanges signature later → ∃ polls,
    later.filterMap Exchange.asked? = List.replicate polls signature ∧
      GaveUp client.polling.maxPolls polls reason
  /-- A client that may make no poll does nothing more once a transaction was taken. -/
  unasked : client.polling.maxPolls = 0 → ∀ signature later, Follows exchanges signature later →
    later = [] ∧ reason = .pollBudgetExhausted
  /-- A transaction was taken, unless the ledger itself answered a call so. -/
  taken : (∀ exchange ∈ exchanges, exchange.error? ≠ some (.expired reason)) →
    ∃ signature later, Follows exchanges signature later

variable {client} {operation : Operation} {signer : Signer} {start finish : Nat}
  {exchanges before polling : List Exchange} {reason : ExpiryReason} {sent : Exchange}
  {signature : Signature}

/-- When no transaction was taken, it was the ledger that called one expired. -/
theorem enquires_untaken (hnone : ∀ exchange ∈ exchanges, ¬exchange.Taken)
    (hanswered : ∃ exchange ∈ exchanges, exchange.error? = some (.expired reason)) :
    Enquires client exchanges reason := by
  have hnot {signature : Signature} {later : List Exchange} :
      ¬Follows exchanges signature later := by
    rintro ⟨before, sent, rfl, htaken⟩
    exact hnone sent (by simp) (Exchange.taken_iff.mpr ⟨signature, htaken⟩)
  refine
    { asks_iff := fun _ _ hfollows => absurd hfollows hnot
      asked := fun _ _ hfollows => absurd hfollows hnot
      unasked := fun _ _ _ hfollows => absurd hfollows hnot
      taken := fun hledger => ?_ }
  obtain ⟨exchange, hmem, herror⟩ := hanswered
  exact absurd herror (hledger exchange hmem)

/-- When the one transaction that was taken is polled for, the polls are all that is asked. -/
theorem enquires_taken (loan : Key) (hnone : ∀ exchange ∈ before, ¬exchange.Taken)
    (htaken : sent.taken? = some signature)
    (hfollows : ∀ exchange ∈ polling, exchange.call.FollowsUp loan)
    (hasked : ∃ polls, polling.filterMap Exchange.asked? = List.replicate polls signature ∧
      GaveUp client.polling.maxPolls polls reason)
    (hunasked : client.polling.maxPolls = 0 → polling = [] ∧ reason = .pollBudgetExhausted) :
    Enquires client (before ++ [sent] ++ polling) reason := by
  have honly {other : Signature} {later : List Exchange}
      (hlater : Follows (before ++ [sent] ++ polling) other later) :
      other = signature ∧ later = polling := by
    obtain ⟨earlier, exchange, hexchanges, hother⟩ := hlater
    obtain ⟨hsent, hpolling⟩ := eq_of_taken hnone hfollows hexchanges
      (Exchange.taken_iff.mpr ⟨other, hother⟩)
    cases (List.append_inj' hsent rfl).2
    exact ⟨Option.some.inj (hother.symm.trans htaken), hpolling⟩
  refine
    { asks_iff := fun _ _ hlater => ?_
      asked := fun _ _ hlater => ?_
      unasked := fun hzero _ _ hlater => ?_
      taken := fun _ => ⟨signature, polling, before, sent, by simp, htaken⟩ }
  · obtain ⟨rfl, rfl⟩ := honly hlater
    obtain ⟨polls, hpolls, hgaveUp⟩ := hasked
    rw [← hgaveUp.pos_iff, ← List.mem_filterMap, hpolls, List.mem_replicate, Nat.pos_iff_ne_zero]
    exact and_iff_left rfl
  · obtain ⟨rfl, rfl⟩ := honly hlater
    exact hasked
  · obtain ⟨rfl, rfl⟩ := honly hlater
    exact hunasked hzero

/-- Whatever the ledger answers, a run that calls its transaction expired has asked about it, if it
may make a poll; clients of checked settings may. -/
theorem execute_enquires
    (run : (client.execute operation signer).run.Ends none start exchanges
      (.ok (.error (.expired reason))) finish) :
    Enquires client exchanges reason ∧
      ∀ settings, ofChecked settings = .ok client → 0 < client.polling.maxPolls := by
  refine ⟨?_, fun _ => maxPolls_pos_of_checked⟩
  generalize hresult : (.ok (.error (.expired reason)) : Except Abort (Except Error Receipt)) =
    result at run
  cases course_of_ends run with
  | keyless => cases hresult
  | confirmed => cases hresult
  | @untaken owner begun done lost final stop hkey hexhausts hstopped =>
    have hfinal : final.result = .ok (.error (.expired reason)) := by
      rw [hstopped]
      cases stop <;> cases hresult
      rfl
    obtain ⟨kept, hended⟩ := Try.result_eq_error_iff.mp hfinal
    obtain ⟨_, attempted⟩ := hexhausts.tries.attempted final (by simp)
    obtain ⟨exchange, hmem, herror⟩ := (attempted.error hended).resolve_left id
    refine enquires_untaken (hexhausts.not_taken fun current signature hsent => ?_)
      ⟨exchange, by simp [hmem], herror⟩
    cases hended.symm.trans hsent
  | @unconfirmed taken begun done told lost final polling outcome error hkey hexhausts hsent
      hwatched hended =>
    obtain ⟨sending, asked, due, hsending, hnone⟩ := hexhausts.taken hsent
    cases hresult
    obtain ⟨other, rfl⟩ : ∃ other, outcome = .expired other reason := by
      cases outcome <;> cases hended
      exact ⟨_, rfl⟩
    rw [hsending]
    refine enquires_taken taken.owner hnone rfl (followsUp_of_watch hwatched)
      (SignedBatch.asked_confirm hwatched) fun hzero => ?_
    obtain ⟨rfl, hexpired⟩ := SignedBatch.ends_confirm_zero hzero hwatched
    cases hexpired
    exact ⟨rfl, rfl⟩

end Client

/-- Settings that are in order but for the number of polls. -/
def Settings.sample (polls : Nat) : Settings where
  nodeUrl := "http://localhost:8899"
  deployment := { program := Octets.filled 32 1 }
  polling := { maxPolls := polls }

namespace Client

/-- What a client does that may make so many polls. -/
def sampleRun (polls : Nat) : Task (Except Error Receipt) :=
  ((ofSettings (.sample polls)).execute .sample .sample).run

/-- A client that may make two polls makes them, at a ledger that knows of no status. -/
theorem execute_enquires_twice :
    ofChecked (.sample 2) = .ok (ofSettings (.sample 2)) ∧
      (sampleRun 2).Ends none 0 (ScriptedLedger.exchanges {} (sampleRun 2))
        (.ok (.error (.expired .pollBudgetExhausted))) 4000 ∧
      Enquires (ofSettings (.sample 2)) (ScriptedLedger.exchanges {} (sampleRun 2))
        .pollBudgetExhausted := by
  have hresult : (ScriptedLedger.play {} (sampleRun 2)).1 =
      .ok (.error (.expired .pollBudgetExhausted)) := by decide +kernel
  have hnow : (ScriptedLedger.play {} (sampleRun 2)).2.now = 4000 := by decide +kernel
  have hrun := ScriptedLedger.ends_of_play hresult hnow
  exact ⟨rfl, hrun, (execute_enquires hrun).1⟩

/-- A client that may make none calls its transaction expired without a question, as soon as it was
taken. The check would have refused its settings. -/
theorem execute_unasked :
    ofChecked (.sample 0) = .error .noPolls ∧
      (sampleRun 0).Ends none 0 (ScriptedLedger.exchanges {} (sampleRun 0))
        (.ok (.error (.expired .pollBudgetExhausted))) 0 ∧
      (ScriptedLedger.exchanges {} (sampleRun 0)).filterMap Exchange.taken? =
        [Octets.filled 64 3] ∧
      (ScriptedLedger.exchanges {} (sampleRun 0)).filterMap Exchange.asked? = [] := by
  have hresult : (ScriptedLedger.play {} (sampleRun 0)).1 =
      .ok (.error (.expired .pollBudgetExhausted)) := by decide +kernel
  have hnow : (ScriptedLedger.play {} (sampleRun 0)).2.now = 0 := by decide +kernel
  have hrun := ScriptedLedger.ends_of_play hresult hnow
  exact ⟨rfl, hrun, by decide +kernel, by decide +kernel⟩

end Client

end LendingClient
