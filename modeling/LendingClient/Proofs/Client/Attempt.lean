import LendingClient.Client.Basic
import LendingClient.Proofs.Operation.Footprint
import LendingClient.Proofs.Transaction.Signing

/-!
# Attempts

What one attempt at handing an operation in can do, call by call. A new transaction takes any number
of calls that prepare it and then one that hands it in. A held transaction takes one question about
its block hash first. An attempt hands in at most one transaction, and that is the last thing it
does.
-/

namespace LendingClient

open LendingClient.Action

/-- The calls that prepare a transaction. -/
def Call.Prepares : Call → Prop
  | .account _ | .accounts _ | .freshKey | .clock | .blockhash => True
  | _ => False

/-- Whether a call hands a transaction in. -/
def Call.Sends : Call → Prop
  | .send _ => True
  | _ => False

/-- What building may call is part of preparing a transaction. -/
theorem Call.Builds.prepares {call : Call} (h : call.Builds) : call.Prepares := by
  cases call <;> simp_all [Builds, Prepares]

/-- Preparing hands nothing in. -/
theorem Call.Prepares.not_sends {call : Call} (h : call.Prepares) : ¬call.Sends := by
  cases call <;> simp_all [Prepares, Sends]

/-- The block hash that a signed batch is asked after is the one its message is bound to. -/
def SignedBatch.Bound (signed : SignedBatch) : Prop :=
  signed.transaction.message.blockhash = signed.blockhash

/-- A batch is signed against the block hash that its signing asked for, and by no other call. -/
theorem SignedBatch.ends_ofBatch {batch : Batch} {signer : Signer} {cancel : Option Nat}
    {start finish : Nat} {exchanges : List Exchange} {signed : SignedBatch}
    (run : (SignedBatch.ofBatch batch signer).run.Ends cancel start exchanges (.ok (.ok signed))
      finish) :
    exchanges = [⟨.blockhash, start, (.ok signed.blockhash : Except Error Blockhash), finish⟩] ∧
      Transaction.ofBatch batch signer signed.blockhash = .ok (.ok signed.transaction) := by
  obtain ⟨blockhash, _, _, _, rfl, hblockhash, hsigning⟩ := ends_bind_ok run
  obtain ⟨answer, due, _, -, rfl, hanswer⟩ := Task.Ends.of_ask hblockhash
  obtain ⟨rfl, hok, rfl⟩ := Task.Ends.of_done hanswer
  cases hok
  obtain ⟨signing, _, _, _, rfl, hplan, htransaction⟩ := ends_bind_ok hsigning
  obtain ⟨rfl, hsigned, rfl⟩ := ends_plan hplan
  obtain ⟨transaction, _, _, _, rfl, hplan, hpure⟩ := ends_bind_ok htransaction
  obtain ⟨rfl, hnamed, rfl⟩ := ends_plan hplan
  obtain ⟨rfl, hvalue, rfl⟩ := Task.Ends.of_done hpure
  cases hvalue
  refine ⟨rfl, ?_⟩
  obtain ⟨inner, hinner, hvalue⟩ := map_eq_ok_iff.mp hsigned.symm
  cases hvalue
  rw [hinner, mapError_eq_ok_iff.mp (Except.ok.inj hnamed).symm]

/-- The calls of signing a batch prepare it. -/
theorem SignedBatch.confined_ofBatch (batch : Batch) (signer : Signer) :
    Confined Call.Prepares
      (fun signed => signed.Bound ∧
        Transaction.ofBatch batch signer signed.blockhash = .ok (.ok signed.transaction))
      (SignedBatch.ofBatch batch signer) := by
  have hconfined : Confined Call.Prepares (fun _ => True) (SignedBatch.ofBatch batch signer) := by
    refine .bind (.blockhash trivial) fun blockhash => ?_
    refine .bind (Plan.own_ofAbort _).confined fun signed => ?_
    refine .bind (Plan.own_ofExcept fun error h => ?_).confined fun transaction => .pure trivial
    cases signed <;> cases h
    trivial
  refine ⟨hconfined.asks, fun run => ?_, hconfined.error⟩
  obtain ⟨-, hsigned⟩ := SignedBatch.ends_ofBatch run
  exact ⟨Transaction.blockhash_ofBatch hsigned, hsigned⟩

/-- How an attempt ends once its transaction was answered. -/
def Attempt.ofAnswer (held : Held) : Except Error Signature → Attempt
  | .ok signature => .sent held signature
  | .error error => .failed error (some held)

/-- The transaction that is held when an attempt is over. -/
def Attempt.held? : Attempt → Option Held
  | .sent held _ => some held
  | .failed _ held => held

/-- However the ledger answers it, the transaction that was handed in is held. -/
@[simp]
theorem Attempt.held?_ofAnswer (held : Held) (answer : Except Error Signature) :
    (Attempt.ofAnswer held answer).held? = some held := by
  cases answer <;> rfl

namespace Client

variable (client : Client) (operation : Operation) (owner : Key) (signer : Signer)

/-- The batch of an operation at this instant is one for the operation. -/
theorem confined_prepare :
    Confined Call.Prepares (Batch.For operation) (client.prepare operation owner) :=
  .bind (.clock trivial) fun now =>
    (client.deployment.confined_build operation owner now).mono fun _ h => h.prepares

/-- Until a transaction is signed, only calls that prepare it are made. It is bound to the block
hash that it is asked after, and made from its batch, which is one for the operation. -/
theorem confined_hold :
    Confined Call.Prepares
      (fun held => held.signed.Bound ∧ Batch.For operation held.batch ∧
        Transaction.ofBatch held.batch signer held.signed.blockhash =
          .ok (.ok held.signed.transaction))
      (client.hold operation owner signer) := by
  refine .bind_of_value (client.confined_prepare operation owner) fun batch hbatch => ?_
  refine .bind_of_value (SignedBatch.confined_ofBatch batch signer) fun signed hsigned => ?_
  exact .pure ⟨hsigned.1, hbatch, hsigned.2⟩

variable {cancel : Option Nat} {start finish : Nat} {exchanges : List Exchange}
  {rest : Task Attempt}

/-- How an attempt goes on when it was answered about the block hash of the transaction that is
held. The transaction is handed in again if the hash is good, a new one is prepared if it is gone,
and if there is no telling the transaction is held on to. -/
def afterValidity (held : Held) : Except Error Bool → Task Attempt
  | .ok true => sendHeld held
  | .ok false => client.sendAnew operation owner signer
  | .error error => .done (.failed error (some held))

/-- An attempt with a transaction that is held asks after its block hash first. -/
theorem attempt_some (held : Held) :
    client.attempt operation owner signer (some held) =
      .ask (.validity held.signed.blockhash)
        (client.afterValidity operation owner signer held) := by
  refine congrArg (Task.ask (.validity held.signed.blockhash)) (funext fun answer => ?_)
  cases answer with
  | error error => rfl
  | ok good => cases good <;> rfl

end Client

end LendingClient
