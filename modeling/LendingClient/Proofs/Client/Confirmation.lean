import Mathlib.Data.List.Basic
import LendingClient.Proofs.Client.Course
import LendingClient.Proofs.Client.Resend

/-!
# Receipts and verdicts

A run ends with a receipt when a status says that the transaction took effect, and with a failure
when one says that it was refused. Nothing that comes after a good verdict takes the receipt back:
the user's loan is read once more if the operation changes it, and a receipt is given without one if
that goes wrong.
-/

namespace LendingClient

open LendingClient.Action

/-- Only polling reads a verdict. -/
private theorem Exchange.verdict?_of_not_polls {exchange : Exchange} (h : ¬exchange.call.Polls) :
    exchange.verdict? = none := by
  obtain ⟨call, asked, answer, due⟩ := exchange
  cases call with
  | status => exact absurd trivial h
  | _ => rfl

private theorem Exchange.read_inj {signature signature' : Signature} {verdict verdict' : Verdict}
    {asked told asked' told' : Nat}
    (h : Exchange.read signature verdict asked told =
      Exchange.read signature' verdict' asked' told') :
    signature = signature' ∧ verdict = verdict' :=
  ⟨Call.status.inj (congrArg Exchange.call h), Option.some.inj (congrArg Exchange.verdict? h)⟩

/-- Among exchanges of which only one has a verdict, that is the one at which a status was read. -/
theorem Exchange.eq_of_read {exchanges later before after : List Exchange} {exchange : Exchange}
    {signature : Signature} {verdict : Verdict} {asked told : Nat}
    (hbefore : ∀ exchange ∈ exchanges, exchange.verdict? = none)
    (hlater : ∀ exchange ∈ later, exchange.verdict? = none)
    (hsplit : exchanges ++ exchange :: later =
      before ++ .read signature verdict asked told :: after) :
    exchange = .read signature verdict asked told ∧ later = after := by
  have hfirst : .read signature verdict asked told ∉ exchanges := fun hmem =>
    nomatch hbefore _ hmem
  have hlast : .read signature verdict asked told ∉ later := fun hmem => nomatch hlater _ hmem
  exact ((List.append_cons_inj_of_notMem hfirst hlast).mp hsplit).2

namespace Client

variable (client : Client) (operation : Operation) (signer : Signer) (cancel : Option Nat)

/-- What the result of a run says of the verdicts among its exchanges, and they of it. -/
structure Confirms (exchanges : List Exchange) (result : Except Abort (Except Error Receipt)) :
    Prop where
  /-- With a receipt, the transaction that was handed in last took effect, as the status of the
  signature says that it was answered with. -/
  landed : ∀ receipt, result = .ok (.ok receipt) →
    ∃ sending transaction sentAt due after asked told, exchanges = sending ++
      ⟨.send transaction, sentAt, (.ok receipt.signature : Except Error Signature), due⟩ :: after ∧
      (∀ exchange ∈ after, ¬exchange.call.Sends) ∧
      .read receipt.signature .landed asked told ∈ after
  /-- When a status says so, and it is heard, there is a receipt. All that comes later is the read
  of the user's loan. -/
  receipt : ∀ before signature asked told after,
    exchanges = before ++ .read signature .landed asked told :: after →
    (∀ wish ∈ cancel, told < wish) →
    ∃ owner receipt, signer.key = .ok owner ∧ result = .ok (.ok receipt) ∧
      receipt.signature = signature ∧ Reread client operation owner after receipt.loan
  /-- When a status says that the transaction was refused, that is what the run ends with. -/
  failed : cancel = none → ∀ signature why asked told,
    .read signature (.refused why) asked told ∈ exchanges →
    ∃ report, report.rejection = why ∧ result = .ok (.error (.failed signature report))
  /-- And the run ends so only then, for a ledger that does not itself answer a call so. -/
  refused : (∀ exchange ∈ exchanges, ∀ signature report,
      exchange.error? ≠ some (.failed signature report)) →
    ∀ signature report, result = .ok (.error (.failed signature report)) →
    ∃ asked told, .read signature (.refused report.rejection) asked told ∈ exchanges

variable {client operation signer cancel} {owner : Key} {held : Option Held} {start finish : Nat}
  {exchanges : List Exchange} {loan : Key}

/-- The read of the loan tells no verdict. -/
theorem Reread.verdict? {reading : List Exchange} {found : Option UserLoan}
    (reread : Reread client operation owner reading found) :
    ∀ exchange ∈ reading, exchange.verdict? = none := fun exchange hmem =>
  exchange.verdict?_of_not_polls (reread.prepares exchange hmem).not_polls

/-- When every verdict came too late, the run has no receipt, and no failure but one that a call was
answered with. -/
theorem confirms_of_missed {result : Except Abort (Except Error Receipt)}
    (missed : ∀ exchange ∈ exchanges, ∀ verdict ∈ exchange.verdict?,
      ∃ wish ∈ cancel, verdict = .landed → wish ≤ exchange.due)
    (hreceipt : ∀ receipt, result ≠ .ok (.ok receipt))
    (hfailed : ∀ signature report, result = .ok (.error (.failed signature report)) →
      ∃ exchange ∈ exchanges, exchange.error? = some (.failed signature report)) :
    Confirms client operation signer cancel exchanges result where
  landed receipt h := absurd h (hreceipt receipt)
  receipt before signature asked told after hsplit heard := by
    obtain ⟨wish, hwish, hlate⟩ :=
      missed (.read signature .landed asked told) (by simp [hsplit]) .landed rfl
    exact absurd (heard wish hwish) (Nat.not_lt_of_le (hlate rfl))
  failed hcancel signature why asked told hmem := by
    obtain ⟨wish, hwish, -⟩ := missed _ hmem (.refused why) rfl
    rw [hcancel] at hwish
    cases hwish
  refused hledger signature report hresult := by
    obtain ⟨exchange, hmem, herror⟩ := hfailed signature report hresult
    exact absurd herror (hledger exchange hmem signature report)

/-- When the only verdict is a refusal, the run ends with it. -/
theorem confirms_of_refused {signature : Signature} {report : FailureReport} (asked told : Nat)
    (honly : ∀ exchange ∈ exchanges, exchange.verdict? = none ∨
      exchange = .read signature (.refused report.rejection) asked told)
    (hmem : .read signature (.refused report.rejection) asked told ∈ exchanges) :
    Confirms client operation signer cancel exchanges
      (.ok (.error (.failed signature report))) where
  landed := nofun
  receipt before other asked told after hsplit _ := by
    rcases honly (.read other .landed asked told) (by simp [hsplit]) with hnone | hread
    · cases hnone
    · cases (Exchange.read_inj hread).2
  failed _ other why asked told hother := by
    rcases honly _ hother with hnone | hread
    · cases hnone
    · obtain ⟨rfl, hwhy⟩ := Exchange.read_inj hread
      cases hwhy
      exact ⟨report, rfl, rfl⟩
  refused _ other otherReport hresult := by
    cases hresult
    exact ⟨asked, told, hmem⟩

/-- When the only verdict is that the transaction took effect, the run ends with a receipt. -/
theorem confirms_of_landed {transaction : Transaction} {sending before reading : List Exchange}
    {sentAt due asked told : Nat} (receipt : Receipt) (hkey : signer.key = .ok owner)
    (hsending : ∀ exchange ∈ sending, exchange.verdict? = none)
    (hbefore : ∀ exchange ∈ before, exchange.verdict? = none ∧ ¬exchange.call.Sends)
    (reread : Reread client operation owner reading receipt.loan) :
    Confirms client operation signer cancel
      (sending ++ ⟨.send transaction, sentAt, (.ok receipt.signature : Except Error Signature),
        due⟩ :: (before ++ .read receipt.signature .landed asked told :: reading))
      (.ok (.ok receipt)) := by
  -- there is no verdict before the last status, and none after it
  have hopen : ∀ exchange ∈ sending ++ ⟨.send transaction, sentAt,
      (.ok receipt.signature : Except Error Signature), due⟩ :: before,
      exchange.verdict? = none := by
    refine List.forall_mem_append.mpr ⟨hsending, List.forall_mem_cons.mpr ⟨rfl, ?_⟩⟩
    exact fun exchange hmem => (hbefore exchange hmem).1
  have hlast {earlier after : List Exchange} {signature : Signature} {verdict : Verdict}
      {asked' told' : Nat}
      (hsplit : sending ++ ⟨.send transaction, sentAt,
        (.ok receipt.signature : Except Error Signature), due⟩ ::
          (before ++ .read receipt.signature .landed asked told :: reading) =
        earlier ++ .read signature verdict asked' told' :: after) :
      (receipt.signature = signature ∧ .landed = verdict) ∧ reading = after := by
    obtain ⟨hread, hafter⟩ := Exchange.eq_of_read hopen reread.verdict? (by simpa using hsplit)
    exact ⟨Exchange.read_inj hread, hafter⟩
  refine
    { landed := fun other hother => ?_
      receipt := fun earlier signature asked told after hsplit _ => ?_
      failed := fun _ signature why asked told hmem => ?_
      refused := fun _ signature report hresult => nomatch hresult }
  · cases hother
    refine ⟨sending, transaction, sentAt, due, _, asked, told, rfl, ?_, by simp⟩
    refine List.forall_mem_append.mpr ⟨fun exchange hmem => (hbefore exchange hmem).2, ?_⟩
    exact List.forall_mem_cons.mpr
      ⟨id, fun exchange hmem => (reread.prepares exchange hmem).not_sends⟩
  · obtain ⟨⟨hsignature, -⟩, rfl⟩ := hlast hsplit
    exact ⟨owner, receipt, hkey, rfl, hsignature, reread⟩
  · obtain ⟨earlier, after, hsplit⟩ := List.append_of_mem hmem
    cases (hlast hsplit).1.2

/-- If an attempt fails because a transaction was refused, that was the answer to a call. -/
theorem Attempted.failed_answered {ending : Except Abort Attempt} {signature : Signature}
    {report : FailureReport} {kept : Option Held}
    (attempted : Attempted client operation owner signer cancel held exchanges ending)
    (hending : ending = .ok (.failed (.failed signature report) kept)) :
    ∃ exchange ∈ exchanges, exchange.error? = some (.failed signature report) :=
  (attempted.error hending).resolve_left id

/-- The result of a run says what the verdicts among its exchanges do. -/
theorem execute_confirms {result : Except Abort (Except Error Receipt)}
    (run : (client.execute operation signer).run.Ends cancel start exchanges result finish) :
    Confirms client operation signer cancel exchanges result := by
  cases course_of_ends run with
  | keyless hkey =>
    exact confirms_of_missed (by simp) (fun _ h => by cases h) fun _ _ h => by cases h
  | @untaken owner begun done lost final stop hkey hexhausts hstopped =>
    refine confirms_of_missed ?_ (fun receipt h => ?_) fun signature report h => ?_
    · intro exchange hmem verdict hverdict
      rw [exchange.verdict?_of_not_polls (hexhausts.not_polls exchange hmem)] at hverdict
      cases hverdict
    · cases stop <;> cases h
    · have hfinal : final.result = .ok (.error (.failed signature report)) := by
        rw [hstopped]
        cases stop <;> cases h
        rfl
      obtain ⟨kept, hended⟩ := Try.result_eq_error_iff.mp hfinal
      obtain ⟨_, attempted⟩ := hexhausts.tries.attempted final (by simp)
      obtain ⟨exchange, hmem, herror⟩ := attempted.failed_answered hended
      exact ⟨exchange, by simp [hmem], herror⟩
  | @unconfirmed taken begun done told lost final polling outcome error hkey hexhausts hsent
      hwatched hended =>
    have hflat : ∀ exchange ∈ (lost ++ [final]).flatMap Try.exchanges, exchange.verdict? = none :=
      fun exchange hmem => exchange.verdict?_of_not_polls (hexhausts.not_polls exchange hmem)
    cases SignedBatch.polled_confirm hwatched with
    | landed => cases hended
    | @refused before asked told due why answer hopen heard =>
      cases hended
      refine confirms_of_refused asked told ?_ ?_
      · rw [FailureReport.rejection_ofAnswer]
        refine List.forall_mem_append.mpr ⟨fun exchange hmem => .inl (hflat exchange hmem), ?_⟩
        refine List.forall_mem_append.mpr ⟨fun exchange hmem => .inl (hopen exchange hmem), ?_⟩
        exact List.forall_mem_cons.mpr ⟨.inr rfl, List.forall_mem_singleton.mpr (.inl rfl)⟩
      · rw [FailureReport.rejection_ofAnswer]
        simp
    | expired missed =>
      cases hended
      refine confirms_of_missed (List.forall_mem_append.mpr ⟨?_, missed⟩) (fun _ h => by cases h)
        fun _ _ h => by cases h
      intro exchange hmem verdict hverdict
      rw [hflat exchange hmem] at hverdict
      cases hverdict
  | @confirmed taken begun done told lost final polling reading outcome signature loan hkey
      hexhausts hsent hwatched hended hreread =>
    have hflat : ∀ exchange ∈ (lost ++ [final]).flatMap Try.exchanges, exchange.verdict? = none :=
      fun exchange hmem => exchange.verdict?_of_not_polls (hexhausts.not_polls exchange hmem)
    have hpolled := SignedBatch.polled_confirm hwatched
    have hwatches := (taken.held.signed.only_confirm client.polling taken.signature).of_mem hwatched
    obtain ⟨sending, sentAt, due, hsending, -⟩ := hexhausts.taken hsent
    rw [hsending] at hflat ⊢
    cases hpolled with
    | refused => cases hended
    | expired => cases hended
    | @landed before asked told polls hopen heard =>
      cases hended
      simp only [List.append_assoc, List.cons_append]
      refine confirms_of_landed (taken.receipt taken.signature loan) hkey
        (fun exchange hmem => hflat exchange (List.mem_append_left _ hmem))
        (fun exchange hmem => ⟨hopen exchange hmem, ?_⟩) hreread
      exact SignedBatch.Watches.not_sends (hwatches exchange (List.mem_append_left _ hmem))

/-- At a ledger that loses a transaction and a status there is a receipt in the end. -/
theorem execute_confirms_lossy :
    (sample.execute .sample .sample).run.Ends none 0
        (lossyLedger.exchanges (sample.execute .sample .sample).run)
        (.ok (.ok ⟨Octets.filled 64 3, .initMainState, [], none, none⟩)) 4300 ∧
      Confirms sample .sample .sample none
        (lossyLedger.exchanges (sample.execute .sample .sample).run)
        (.ok (.ok ⟨Octets.filled 64 3, .initMainState, [], none, none⟩)) :=
  ⟨ends_lossyLedger, execute_confirms ends_lossyLedger⟩

end Client

end LendingClient
