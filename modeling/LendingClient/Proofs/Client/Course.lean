import LendingClient.Proofs.Client.Tries
import LendingClient.Proofs.Run.Scripted
import LendingClient.Proofs.Submission.Ending

/-!
# The course of an operation

An operation is carried out in three steps: a transaction is handed in, by as many attempts as it
takes; it is polled for; and what became of it is made into a receipt, with the user's loan read
once more if the operation changes it. A complete run is put together from complete runs of the
steps.
-/

namespace LendingClient

open LendingClient.Action

/-- What is known once a transaction was taken: the user's key, the transaction with its batch, and
the signature that handing it in was answered with. -/
structure HandedIn where
  owner : Key
  held : Held
  signature : Signature

/-- The receipt for a transaction that took effect. -/
def HandedIn.receipt (taken : HandedIn) (signature : Signature) (loan : Option UserLoan) :
    Receipt where
  signature := signature
  kind := taken.held.batch.kind
  days := taken.held.batch.days
  loan := loan
  createdMint := taken.held.batch.cosigners.head?.map (·.key)

namespace Client

/-- Hands an operation in. -/
def handIn (client : Client) (operation : Operation) (signer : Signer) : Action HandedIn := do
  let owner ← Plan.ofExcept (signer.key.mapError fun reason => .sign (.signer reason))
  let (held, sent) ← ExceptT.mk (client.send operation owner signer client.retries none)
  return ⟨owner, held, sent⟩

/-- Polls for what was handed in. -/
def watch (client : Client) (taken : HandedIn) : Task Outcome :=
  taken.held.signed.confirm client.polling taken.signature

/-- Makes a receipt of what became of it. -/
def settle (client : Client) (operation : Operation) (taken : HandedIn) (outcome : Outcome) :
    Action Receipt := do
  let signature ← Plan.ofExcept outcome.result
  let loan ← ExceptT.lift (client.loanAfter operation taken.owner)
  return taken.receipt signature loan

/-- An operation is handed in, polled for and settled. -/
theorem execute_eq (client : Client) (operation : Operation) (signer : Signer) :
    client.execute operation signer = client.handIn operation signer >>= fun taken =>
      ExceptT.lift (client.watch taken) >>= client.settle operation taken := by
  unfold execute handIn
  simp only [bind_assoc, pure_bind]
  rfl

variable {client : Client} {operation : Operation} {signer : Signer} {cancel : Option Nat}
  {start finish : Nat} {exchanges : List Exchange}

/-- An attempt that comes to a transaction that was taken ended with it. -/
theorem ending_of_result {attempt : Try} {held : Held} {signature : Signature}
    (h : attempt.result = .ok (.ok (held, signature))) :
    attempt.ending = .ok (.sent held signature) := by
  obtain ⟨ended, hended, hresult⟩ := map_eq_ok_iff.mp h
  cases ended <;> cases hresult
  exact hended

/-- Handing in is the attempts, unless the signer cannot even say its key. -/
theorem ends_handIn {result : Except Abort (Except Error HandedIn)}
    (run : (client.handIn operation signer).run.Ends cancel start exchanges result finish) :
    (∃ reason, signer.key = .error reason ∧ exchanges = [] ∧
      result = .ok (.error (.sign (.signer reason)))) ∨
    ∃ owner lost final, signer.key = .ok owner ∧
      Exhausts client operation owner signer cancel client.retries none start lost final finish ∧
      exchanges = (lost ++ [final]).flatMap Try.exchanges ∧
      ((∃ stop : Except Abort Error, final.result = stop.map .error ∧
          result = stop.map .error) ∨
        ∃ held signature, final.ending = .ok (.sent held signature) ∧
          result = .ok (.ok ⟨owner, held, signature⟩)) := by
  rcases ends_bind run with ⟨stop, hplan, rfl⟩ | ⟨owner, before, after, middle, rfl, hplan, hsend⟩
  · obtain ⟨rfl, hresult, -⟩ := ends_plan hplan
    cases hkey : signer.key with
    | error reason =>
      refine .inl ⟨reason, rfl, rfl, ?_⟩
      rw [hkey] at hresult
      cases stop <;> cases hresult
      rfl
    | ok owner =>
      rw [hkey] at hresult
      cases stop <;> cases hresult
  · obtain ⟨rfl, hresult, rfl⟩ := ends_plan hplan
    have hkey : signer.key = .ok owner := mapError_eq_ok_iff.mp (Except.ok.inj hresult).symm
    right
    rcases ends_bind hsend with
      ⟨stop, hstop, rfl⟩ | ⟨⟨held, sent⟩, attempts, after, middle, rfl, hsent, hpure⟩
    · obtain ⟨lost, final, hexhausts, rfl, hfinal⟩ := ends_send hstop
      exact ⟨owner, lost, final, hkey, hexhausts, rfl, .inl ⟨stop, hfinal.symm, rfl⟩⟩
    · obtain ⟨rfl, rfl, rfl⟩ := Task.Ends.of_done hpure
      obtain ⟨lost, final, hexhausts, rfl, hfinal⟩ := ends_send hsent
      exact ⟨owner, lost, final, hkey, hexhausts, by simp,
        .inr ⟨held, sent, ending_of_result hfinal.symm, rfl⟩⟩

/-- The loan that a read found: none if there is no account, or it cannot be read. -/
def loanFound (address : Key) : Except Error (Option Bytes) → Option UserLoan
  | .ok (some data) => (Record.decode UserLoan address data).toOption
  | .ok none | .error _ => none

/-- The loan that is found is what the read makes of its answer, if that is no error. -/
theorem loanFound_eq (address : Key) (answer : Except Error (Option Bytes)) :
    loanFound address answer =
      match answer.bind (Read.optional UserLoan address).interpret with
      | .ok loan => loan
      | .error _ => none := by
  cases answer with
  | error => rfl
  | ok data =>
    cases data with
    | none => rfl
    | some data =>
      change (Record.decode UserLoan address data).toOption =
        match (Record.decode UserLoan address data).map some with
        | .ok loan => loan
        | .error _ => none
      cases Record.decode UserLoan address data <;> rfl

/-- How the user's loan is found afterwards. -/
structure Reread (client : Client) (operation : Operation) (owner : Key) (reading : List Exchange)
    (loan : Option UserLoan) : Prop where
  /-- An operation that changes the loan is followed by one read of it. -/
  once : operation.changesLoan = true →
    ∃ (asked due : Nat) (answer : Except Error (Option Bytes)),
      reading = [⟨.account (Address.userLoan client.deployment.program owner).1, asked, answer,
        due⟩] ∧
      loan = loanFound (Address.userLoan client.deployment.program owner).1 answer
  /-- Any other operation is followed by no call. -/
  never : operation.changesLoan = false → reading = [] ∧ loan = none

/-- Finding the user's loan afterwards asks for the account of the loan and for nothing else. -/
theorem Reread.calls {owner : Key} {reading : List Exchange} {loan : Option UserLoan}
    (reread : Reread client operation owner reading loan) : ∀ exchange ∈ reading,
      exchange.call = .account (Address.userLoan client.deployment.program owner).1 := by
  cases hchanges : operation.changesLoan with
  | false =>
    obtain ⟨rfl, -⟩ := reread.never hchanges
    simp
  | true =>
    obtain ⟨asked, due, answer, rfl, -⟩ := reread.once hchanges
    exact List.forall_mem_singleton.mpr rfl

/-- Finding the loan afterwards asks for nothing that preparing could not ask for. -/
theorem Reread.prepares {owner : Key} {reading : List Exchange} {loan : Option UserLoan}
    (reread : Reread client operation owner reading loan) :
    ∀ exchange ∈ reading, exchange.call.Prepares := by
  have haccount (address : Key) : (Call.account address).Prepares := trivial
  intro exchange hmem
  rw [reread.calls exchange hmem]
  exact haccount _

/-- A read of a record that may be missing is one call. -/
theorem ends_optional {α : Type} [Record α] {address : Key}
    {result : Except Abort (Except Error (Option α))}
    (run : (Read.optional α address).perform.run.Ends cancel start exchanges result finish) :
    ∃ (answer : Except Error (Option Bytes)) (due : Nat),
      exchanges = [⟨.account address, start, answer, due⟩] ∧
      result = .ok (answer.bind (Read.optional α address).interpret) := by
  change (Task.ask (.account address) _).Ends _ _ _ _ _ at run
  obtain ⟨answer, due, later, -, rfl, hlater⟩ := Task.Ends.of_ask run
  refine ⟨answer, due, ?_⟩
  cases answer <;> obtain ⟨rfl, rfl, -⟩ := Task.Ends.of_done hlater <;> exact ⟨rfl, rfl⟩

/-- Looking for the loan never fails. -/
theorem ends_loanAfter {owner : Key} {result : Except Abort (Option UserLoan)}
    (run : (client.loanAfter operation owner).Ends cancel start exchanges result finish) :
    ∃ loan, result = .ok loan ∧ Reread client operation owner exchanges loan := by
  unfold loanAfter at run
  cases hchanges : operation.changesLoan with
  | false =>
    rw [hchanges] at run
    obtain ⟨rfl, rfl, -⟩ := Task.Ends.of_done run
    exact ⟨none, rfl, fun h => absurd (hchanges.symm.trans h) nofun, fun _ => ⟨rfl, rfl⟩⟩
  | true =>
    rw [hchanges, if_pos rfl] at run
    rcases Task.Ends.of_bind run with
      ⟨why, hread, rfl⟩ | ⟨found, before, after, middle, rfl, hread, hafter⟩
    · obtain ⟨answer, due, rfl, hresult⟩ := ends_optional hread
      cases hresult
    · obtain ⟨answer, due, rfl, hresult⟩ := ends_optional hread
      obtain rfl := Except.ok.inj hresult
      have hloan : after = [] ∧
          result = .ok (loanFound (Address.userLoan client.deployment.program owner).1 answer) := by
        rw [loanFound_eq]
        change (match answer.bind (Read.optional UserLoan _).interpret with
          | .ok loan => Task.done loan
          | .error _ => .done none).Ends _ _ _ _ _ at hafter
        generalize answer.bind (Read.optional UserLoan _).interpret = found at hafter ⊢
        cases found with
        | error => exact (Task.Ends.of_done hafter).imp_right And.left
        | ok loan => exact (Task.Ends.of_done hafter).imp_right And.left
      obtain ⟨rfl, rfl⟩ := hloan
      exact ⟨_, rfl, fun _ => ⟨start, due, answer, rfl, rfl⟩,
        fun h => absurd (hchanges.symm.trans h) nofun⟩

/-- What follows upon a transaction that was taken: it is polled for, and unless that ends in an
error there is a receipt. -/
theorem ends_watch {taken : HandedIn} {result : Except Abort (Except Error Receipt)}
    (run : (ExceptT.lift (client.watch taken) >>= client.settle operation taken).run.Ends cancel
      start exchanges result finish) :
    ∃ outcome polling reading middle, exchanges = polling ++ reading ∧
      (client.watch taken).Ends cancel start polling (.ok outcome) middle ∧
      ((∃ error, outcome.result = .error error ∧ reading = [] ∧ result = .ok (.error error)) ∨
      ∃ signature loan, outcome.result = .ok signature ∧
        Reread client operation taken.owner reading loan ∧
        result = .ok (.ok (taken.receipt signature loan))) := by
  rcases ends_bind run with
    ⟨stop, hpolling, hresult⟩ | ⟨outcome, polling, settling, middle, rfl, hpolling, hsettling⟩
  · -- polling never breaks off, and has no error of its own
    obtain ⟨inner, hinner, hstop⟩ := ends_lift hpolling
    cases SignedBatch.polled_confirm hinner <;> cases stop <;> cases hstop
  · obtain ⟨inner, hinner, houtcome⟩ := ends_lift hpolling
    obtain rfl : inner = .ok outcome := by
      cases inner <;> cases houtcome
      rfl
    refine ⟨outcome, polling, settling, middle, rfl, hinner, ?_⟩
    rcases ends_bind hsettling with
      ⟨stop, hplan, rfl⟩ | ⟨signature, before, reading, middle, rfl, hplan, hrest⟩
    · obtain ⟨rfl, hstop, -⟩ := ends_plan hplan
      cases stop with
      | error => cases hstop
      | ok error => exact .inl ⟨error, (Except.ok.inj hstop).symm, rfl, rfl⟩
    · obtain ⟨rfl, hsignature, rfl⟩ := ends_plan hplan
      rcases ends_bind hrest with
        ⟨stop, hloan, rfl⟩ | ⟨loan, before, after, middle, rfl, hloan, hpure⟩
      · obtain ⟨inner, hinner, hstop⟩ := ends_lift hloan
        obtain ⟨loan, rfl, -⟩ := ends_loanAfter hinner
        cases stop <;> cases hstop
      · obtain ⟨inner, hinner, hvalue⟩ := ends_lift hloan
        obtain ⟨found, rfl, hreread⟩ := ends_loanAfter hinner
        cases hvalue
        obtain ⟨rfl, rfl, -⟩ := Task.Ends.of_done hpure
        rw [List.nil_append, List.append_nil]
        exact .inr ⟨signature, loan, (Except.ok.inj hsignature).symm, hreread, rfl⟩

variable (client operation signer cancel) in
/-- The course that carrying an operation out takes, by its exchanges and its result. -/
inductive Course : List Exchange → Except Abort (Except Error Receipt) → Prop
  /-- The signer cannot say its key. -/
  | keyless {reason : String} (key : signer.key = .error reason) :
      Course [] (.ok (.error (.sign (.signer reason))))
  /-- No transaction was taken. -/
  | untaken {owner : Key} {begun done : Nat} {lost : List Try} {final : Try}
      {stop : Except Abort Error} (key : signer.key = .ok owner)
      (exhausts : Exhausts client operation owner signer cancel client.retries none begun lost final
        done)
      (stopped : final.result = stop.map .error) :
      Course ((lost ++ [final]).flatMap Try.exchanges) (stop.map .error)
  /-- A transaction was taken, and polling for it ended in an error. -/
  | unconfirmed {taken : HandedIn} {begun done told : Nat} {lost : List Try} {final : Try}
      {polling : List Exchange} {outcome : Outcome} {error : Error}
      (key : signer.key = .ok taken.owner)
      (exhausts : Exhausts client operation taken.owner signer cancel client.retries none begun lost
        final done)
      (sent : final.ending = .ok (.sent taken.held taken.signature))
      (watched : (client.watch taken).Ends cancel done polling (.ok outcome) told)
      (ended : outcome.result = .error error) :
      Course ((lost ++ [final]).flatMap Try.exchanges ++ polling) (.ok (.error error))
  /-- A transaction was taken, and it took effect. -/
  | confirmed {taken : HandedIn} {begun done told : Nat} {lost : List Try} {final : Try}
      {polling reading : List Exchange} {outcome : Outcome} {signature : Signature}
      {loan : Option UserLoan} (key : signer.key = .ok taken.owner)
      (exhausts : Exhausts client operation taken.owner signer cancel client.retries none begun lost
        final done)
      (sent : final.ending = .ok (.sent taken.held taken.signature))
      (watched : (client.watch taken).Ends cancel done polling (.ok outcome) told)
      (ended : outcome.result = .ok signature)
      (reread : Reread client operation taken.owner reading loan) :
      Course ((lost ++ [final]).flatMap Try.exchanges ++ (polling ++ reading))
        (.ok (.ok (taken.receipt signature loan)))

/-- Every complete run takes one of these courses. -/
theorem course_of_ends {result : Except Abort (Except Error Receipt)}
    (run : (client.execute operation signer).run.Ends cancel start exchanges result finish) :
    Course client operation signer cancel exchanges result := by
  rw [execute_eq] at run
  rcases ends_bind run with
    ⟨stop, hsending, rfl⟩ | ⟨taken, sending, after, middle, rfl, hsending, hafter⟩
  · rcases ends_handIn hsending with
      ⟨reason, hkey, rfl, hresult⟩ | ⟨owner, lost, final, hkey, hexhausts, rfl, hresult⟩
    · cases stop <;> cases hresult
      exact .keyless hkey
    · rcases hresult with ⟨other, hfinal, hstop⟩ | ⟨held, signature, -, hresult⟩
      · obtain rfl : stop = other := by cases stop <;> cases other <;> cases hstop <;> rfl
        exact .untaken hkey hexhausts hfinal
      · cases stop <;> cases hresult
  · rcases ends_handIn hsending with
      ⟨reason, -, -, hresult⟩ | ⟨owner, lost, final, hkey, hexhausts, rfl, hresult⟩
    · cases hresult
    · rcases hresult with ⟨stop, -, hstop⟩ | ⟨held, signature, hsent, htaken⟩
      · cases stop <;> cases hstop
      cases htaken
      obtain ⟨outcome, polling, reading, told, rfl, hwatched, hended⟩ := ends_watch hafter
      rcases hended with ⟨error, hended, rfl, rfl⟩ | ⟨signature, loan, hended, hreread, rfl⟩
      · rw [List.append_nil]
        exact .unconfirmed hkey hexhausts hsent hwatched hended
      · exact .confirmed hkey hexhausts hsent hwatched hended hreread

end Client

deriving instance DecidableEq for Receipt

/-- A client of a program that lives at a made-up key. -/
def Client.sample : Client where
  deployment := { program := Octets.filled 32 1 }

/-- A signer that signs everything in the same way. -/
def Signer.sample : Signer where
  key := .ok (Octets.filled 32 2)
  sign _ := .ok (Octets.filled 64 3)

/-- An operation that reads one account before it is signed. -/
def Operation.sample : Operation :=
  .setUp (Octets.filled 32 4) (Octets.filled 32 5) "1" "2" "3"

/-- A ledger that loses the first transaction handed in, and then the first status. -/
def lossyLedger : ScriptedLedger where
  script :=
    { sends := [⟨[], .error (.ledger "lost")⟩]
      statuses := [⟨[300], .error (.ledger "lost")⟩, ⟨[], .ok (some .landed)⟩] }

/-- What becomes of the operation there: it is confirmed in the end. -/
theorem Client.ends_lossyLedger :
    (sample.execute .sample .sample).run.Ends none 0
      (lossyLedger.exchanges (sample.execute .sample .sample).run)
      (.ok (.ok ⟨Octets.filled 64 3, .initMainState, [], none, none⟩)) 4300 := by
  have hresult : (lossyLedger.play (sample.execute .sample .sample).run).1 =
      .ok (.ok ⟨Octets.filled 64 3, .initMainState, [], none, none⟩) := by decide +kernel
  have hnow : (lossyLedger.play (sample.execute .sample .sample).run).2.now = 4300 := by
    decide +kernel
  exact ScriptedLedger.ends_of_play hresult hnow

end LendingClient
