import LendingClient.Proofs.Client.Attempt
import LendingClient.Proofs.Submission.Poll

/-!
# Handing in again

A transaction that was handed in may have been received, whatever the answer was. Another one is
handed in after it only when the ledger has said that the block hash of the first one is gone;
without that word the client hands in the very same one, and does nothing else before than to ask
for the word. The law is carried through the attempts by what it says about the exchanges still to
come: they have to respect the transaction that is held.
-/

namespace LendingClient

open LendingClient.Action

/-- The ledger was asked after a block hash, and it was gone. -/
def Exchange.FoundGone (exchange : Exchange) (blockhash : Blockhash) : Prop :=
  ∃ asked due, exchange = ⟨.validity blockhash, asked, (.ok false : Except Error Bool), due⟩

/-- How a transaction may follow another one, by the exchanges between them. -/
structure Resent (first : Transaction) (between : List Exchange) (second : Transaction) : Prop where
  /-- Another transaction follows only when the block hash of the first one was found gone. -/
  gone_of_ne : first ≠ second →
    ∃ exchange ∈ between, exchange.FoundGone first.message.blockhash
  /-- Otherwise the same one follows, with the same message and the same signatures. -/
  same_of_not_gone : (∀ exchange ∈ between, ¬exchange.FoundGone first.message.blockhash) →
    second = first
  /-- Until then nothing is asked but whether the block hash is good. No account is read, and no new
  block hash, without which nothing is signed. -/
  quiet_of_not_gone : (∀ exchange ∈ between, ¬exchange.FoundGone first.message.blockhash) →
    ∀ exchange ∈ between, exchange.call = .validity first.message.blockhash

/-- Whatever is handed in next among exchanges may follow a transaction. -/
def Respects (first : Transaction) (exchanges : List Exchange) : Prop :=
  ∀ between again after second, exchanges = between ++ again :: after →
    again.call = .send second → (∀ exchange ∈ between, ¬exchange.call.Sends) →
    Resent first between second

/-- Every transaction that is handed in is respected by the exchanges after it. -/
def Disciplined : List Exchange → Prop
  | [] => True
  | exchange :: exchanges =>
    (∀ first, exchange.call = .send first → Respects first exchanges) ∧ Disciplined exchanges

private theorem Call.sends_of_eq {call : Call} {transaction : Transaction}
    (h : call = .send transaction) : call.Sends := by
  subst h
  trivial

/-- Polling hands nothing in. -/
theorem SignedBatch.Watches.not_sends {signed : SignedBatch} {polling : Polling}
    {signature : Signature} {call : Call} (h : signed.Watches polling signature call) :
    ¬call.Sends := by
  cases call <;> simp_all [Watches, Call.Sends]

variable {first : Transaction} {exchange : Exchange} {exchanges later : List Exchange}

/-- A transaction is respected where nothing is handed in. -/
theorem Respects.of_not_sends (hsends : ∀ exchange ∈ exchanges, ¬exchange.call.Sends) :
    Respects first exchanges := by
  rintro between again after second rfl hagain -
  exact absurd (Call.sends_of_eq hagain) (hsends again (by simp))

/-- What is respected stays so when nothing more is handed in. -/
theorem Respects.append (hfirst : Respects first exchanges)
    (hlater : ∀ exchange ∈ later, ¬exchange.call.Sends) :
    Respects first (exchanges ++ later) := by
  intro between again after second hsplit hagain hbetween
  rcases List.append_eq_append_iff.mp hsplit with ⟨more, rfl, hmore⟩ | ⟨more, rfl, hmore⟩
  · exact absurd (Call.sends_of_eq hagain) (hlater again (by simp [hmore]))
  · cases more with
    | nil =>
      have hagainMem : again ∈ later := by simp at hmore; simp [← hmore]
      exact absurd (Call.sends_of_eq hagain) (hlater again hagainMem)
    | cons head more =>
      obtain ⟨rfl, -⟩ := List.cons.inj hmore
      exact hfirst between again more second rfl hagain hbetween

private theorem Disciplined.cons_of_not_sends (hcall : ¬exchange.call.Sends)
    (hlater : Disciplined exchanges) : Disciplined (exchange :: exchanges) :=
  ⟨fun _ hfirst => absurd (Call.sends_of_eq hfirst) hcall, hlater⟩

private theorem Disciplined.of_not_sends_append
    (hsends : ∀ exchange ∈ exchanges, ¬exchange.call.Sends) (hlater : Disciplined later) :
    Disciplined (exchanges ++ later) := by
  induction exchanges with
  | nil => exact hlater
  | cons exchange exchanges ih =>
    rw [List.forall_mem_cons] at hsends
    exact .cons_of_not_sends hsends.1 (ih hsends.2)

/-- Exchanges by which nothing is handed in are disciplined. -/
theorem Disciplined.of_not_sends (hsends : ∀ exchange ∈ exchanges, ¬exchange.call.Sends) :
    Disciplined exchanges := by
  simpa using of_not_sends_append hsends (show Disciplined [] from trivial)

/-- Exchanges that are disciplined stay so when nothing more is handed in. -/
theorem Disciplined.append (hdisciplined : Disciplined exchanges)
    (hlater : ∀ exchange ∈ later, ¬exchange.call.Sends) : Disciplined (exchanges ++ later) := by
  induction exchanges with
  | nil => exact .of_not_sends hlater
  | cons exchange exchanges ih =>
    exact ⟨fun first hfirst => (hdisciplined.1 first hfirst).append hlater, ih hdisciplined.2⟩

/-- The exchanges to come are in order: they are disciplined, and respect the transaction that is
held. -/
def InOrder (held : Option Held) (exchanges : List Exchange) : Prop :=
  Disciplined exchanges ∧ ∀ other ∈ held, Respects other.signed.transaction exchanges

/-- Exchanges by which nothing is handed in are in order. -/
theorem InOrder.of_not_sends {held : Option Held}
    (hsends : ∀ exchange ∈ exchanges, ¬exchange.call.Sends) : InOrder held exchanges :=
  ⟨.of_not_sends hsends, fun _ _ => .of_not_sends hsends⟩

namespace Client

variable {client : Client} {operation : Operation} {owner : Key} {signer : Signer}
  {cancel : Option Nat} {start finish : Nat}

end Client

end LendingClient
