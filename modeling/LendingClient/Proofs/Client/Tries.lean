import LendingClient.Proofs.Client.Attempt

/-!
# Attempts, one after the other

A run makes attempts until one of them hands a transaction in that is taken, or fails for good, or
the attempts are used up. This file tells a complete run by its attempts: what each of them can do,
what it leaves for the next, and where the transaction that is held comes from.
-/

namespace LendingClient

open LendingClient.Action

/-- The calls that only polling makes. -/
def Call.Polls : Call → Prop
  | .sleep _ | .status _ | .simulate _ => True
  | _ => False

/-- Preparing polls for nothing. -/
theorem Call.Prepares.not_polls {call : Call} (h : call.Prepares) : ¬call.Polls := by
  cases call <;> simp_all [Prepares, Polls]

/-- The transaction that was handed in. -/
def Exchange.sent? : Exchange → Option Transaction
  | ⟨.send transaction, _, _, _⟩ => some transaction
  | _ => none

private theorem Exchange.sent?_of_not_sends {exchange : Exchange} (h : ¬exchange.call.Sends) :
    exchange.sent? = none := by
  obtain ⟨call, asked, answer, due⟩ := exchange
  cases call with
  | send => exact absurd trivial h
  | _ => rfl

/-- What an attempt comes to, if it is the last one. -/
def Attempt.result : Attempt → Except Error (Held × Signature)
  | .sent held signature => .ok (held, signature)
  | .failed error _ => .error error

/-- A transaction was handed in, and it was taken. -/
def Exchange.Taken (exchange : Exchange) : Prop :=
  ∃ transaction asked signature due,
    exchange = ⟨.send transaction, asked, (.ok signature : Except Error Signature), due⟩

/-- A transaction that was taken was handed in. -/
theorem Exchange.Taken.sends {exchange : Exchange} (h : exchange.Taken) : exchange.call.Sends := by
  obtain ⟨transaction, asked, signature, due, rfl⟩ := h
  trivial

/-- The calls by which a transaction that is held is kept: it is handed in, or its block hash is
asked after. -/
def Call.Keeps (held : Held) (call : Call) : Prop :=
  call = .validity held.signed.blockhash ∨ call = .send held.signed.transaction

namespace Client

variable (client : Client) (operation : Operation) (owner : Key) (signer : Signer)
  (cancel : Option Nat)

/-- What is asked before a new transaction is made: nothing if none is held, and otherwise whether
the block hash of the one that is held is good, which it is not. -/
def Renews : Option Held → List Exchange → Prop
  | none, asking => asking = []
  | some held, asking => ∃ asked due,
    asking = [⟨.validity held.signed.blockhash, asked, (.ok false : Except Error Bool), due⟩]

/-- Everything that an attempt can do, by the transaction that is held before it. -/
inductive Attempted : Option Held → List Exchange → Except Abort Attempt → Prop
  /-- There was no telling whether the transaction that is held can still take effect. -/
  | unsure {held : Held} {asked due : Nat} {error : Error} :
      Attempted (some held)
        [⟨.validity held.signed.blockhash, asked, (.error error : Except Error Bool), due⟩]
        (.ok (.failed error (some held)))
  /-- The transaction that is held was handed in again. -/
  | again {held : Held} {asked told due : Nat} {answer : Except Error Signature} :
      Attempted (some held)
        [⟨.validity held.signed.blockhash, asked, (.ok true : Except Error Bool), told⟩,
          ⟨.send held.signed.transaction, told, answer, due⟩]
        (.ok (.ofAnswer held answer))
  /-- A new transaction could not be made. -/
  | unmade {held : Option Held} {asking preparing : List Exchange} {begun done : Nat}
      (stop : Except Abort Error) (renews : Renews held asking)
      (run : (client.hold operation owner signer).run.Ends cancel begun preparing
        (stop.map .error) done) :
      Attempted held (asking ++ preparing) (stop.map (.failed · none))
  /-- A new transaction was made and handed in. -/
  | anew {held : Option Held} {asking preparing : List Exchange} {begun asked due : Nat}
      {current : Held} {answer : Except Error Signature} (renews : Renews held asking)
      (run : (client.hold operation owner signer).run.Ends cancel begun preparing
        (.ok (.ok current)) asked) :
      Attempted held
        (asking ++ preparing ++ [⟨.send current.signed.transaction, asked, answer, due⟩])
        (.ok (.ofAnswer current answer))

variable {client operation owner signer cancel} {held : Option Held} {start finish : Nat}
  {exchanges : List Exchange} {ending : Except Abort Attempt}

/-- Handing in a transaction takes one call. -/
theorem ends_sendHeld {held : Held}
    (run : (sendHeld held).Ends cancel start exchanges ending finish) :
    ∃ (answer : Except Error Signature) (due : Nat),
      exchanges = [⟨.send held.signed.transaction, start, answer, due⟩] ∧
      ending = .ok (.ofAnswer held answer) := by
  change (Task.ask (.send held.signed.transaction) _).Ends _ _ _ _ _ at run
  obtain ⟨answer, due, later, -, rfl, hlater⟩ := Task.Ends.of_ask run
  refine ⟨answer, due, ?_⟩
  cases answer <;> obtain ⟨rfl, rfl, -⟩ := Task.Ends.of_done hlater <;> exact ⟨rfl, rfl⟩

/-- Where no transaction is held, or the block hash of the one that is was found gone, building,
signing and handing in make an attempt. -/
private theorem attempted_sendAnew {asking : List Exchange} (renews : Renews held asking)
    (run : (client.sendAnew operation owner signer).Ends cancel start exchanges ending finish) :
    Attempted client operation owner signer cancel held (asking ++ exchanges) ending := by
  rcases Task.Ends.of_bind run with
    ⟨why, hwhy, rfl⟩ | ⟨result, preparing, after, middle, rfl, hpreparing, hafter⟩
  · exact .unmade (.error why) renews hwhy
  · cases result with
    | error error =>
      obtain ⟨rfl, rfl, -⟩ := Task.Ends.of_done hafter
      rw [List.append_nil]
      exact .unmade (.ok error) renews hpreparing
    | ok current =>
      obtain ⟨answer, due, rfl, rfl⟩ := ends_sendHeld hafter
      rw [← List.append_assoc]
      exact .anew renews hpreparing

/-- An attempt does nothing else. -/
theorem attempted_of_ends
    (run : (client.attempt operation owner signer held).Ends cancel start exchanges ending finish) :
    Attempted client operation owner signer cancel held exchanges ending := by
  cases held with
  | none =>
    have hrenews : Renews none [] := rfl
    exact attempted_sendAnew hrenews run
  | some held =>
    rw [attempt_some] at run
    obtain ⟨answer, due, later, -, rfl, hlater⟩ := Task.Ends.of_ask run
    cases answer with
    | error error =>
      obtain ⟨rfl, rfl, -⟩ := Task.Ends.of_done hlater
      exact .unsure
    | ok good =>
      cases good with
      | false =>
        have hrenews :
            Renews (some held) [⟨.validity held.signed.blockhash, start, .ok false, due⟩] :=
          ⟨start, due, rfl⟩
        exact attempted_sendAnew hrenews hlater
      | true =>
        obtain ⟨answer, told, rfl, rfl⟩ := ends_sendHeld hlater
        exact .again

/-- What is asked before a new transaction is made neither polls nor hands anything in. -/
theorem Renews.calls {asking : List Exchange} (renews : Renews held asking) :
    ∀ exchange ∈ asking, ¬exchange.call.Polls ∧ ¬exchange.call.Sends := by
  cases held with
  | none =>
    cases renews
    simp
  | some held =>
    obtain ⟨asked, due, rfl⟩ := renews
    intro exchange hmem
    obtain rfl := List.mem_singleton.mp hmem
    exact ⟨id, id⟩

/-- Until a new transaction is made nothing is handed in. -/
theorem calls_of_hold {preparing : List Exchange} {asked : Nat}
    {result : Except Abort (Except Error Held)}
    (run : (client.hold operation owner signer).run.Ends cancel start preparing result asked) :
    ∀ exchange ∈ preparing, ¬exchange.call.Polls ∧ ¬exchange.call.Sends := by
  intro exchange hmem
  have hprepares := (client.confined_hold operation owner signer).asks.only.of_mem run exchange hmem
  exact ⟨hprepares.not_polls, hprepares.not_sends⟩

/-- An attempt is some calls that hand nothing in, and then it may hand one transaction in. Its
ending is the answer to that. -/
theorem Attempted.shape
    (attempted : Attempted client operation owner signer cancel held exchanges ending) :
    (∀ exchange ∈ exchanges, ¬exchange.call.Polls ∧ ¬exchange.call.Sends) ∧
      (∀ current signature, ending ≠ .ok (.sent current signature)) ∨
    ∃ (before : List Exchange) (current : Held) (asked due : Nat)
        (answer : Except Error Signature),
      exchanges = before ++ [⟨.send current.signed.transaction, asked, answer, due⟩] ∧
      (∀ exchange ∈ before, ¬exchange.call.Polls ∧ ¬exchange.call.Sends) ∧
      ending = .ok (.ofAnswer current answer) := by
  cases attempted with
  | unsure =>
    refine .inl ⟨fun exchange hmem => ?_, fun _ _ h => nomatch h⟩
    obtain rfl := List.mem_singleton.mp hmem
    exact ⟨id, id⟩
  | @again held asked told due answer =>
    refine .inr ⟨[_], held, told, due, answer, rfl, fun exchange hmem => ?_, rfl⟩
    obtain rfl := List.mem_singleton.mp hmem
    exact ⟨id, id⟩
  | @unmade _ asking preparing begun done stop renews run =>
    refine .inl ⟨List.forall_mem_append.mpr ⟨renews.calls, calls_of_hold run⟩, ?_⟩
    intro current signature h
    cases stop <;> cases h
  | @anew _ asking preparing begun asked due current answer renews run =>
    exact .inr ⟨_, current, asked, due, answer, rfl,
      List.forall_mem_append.mpr ⟨renews.calls, calls_of_hold run⟩, rfl⟩

/-- An attempt does not poll. -/
theorem Attempted.not_polls
    (attempted : Attempted client operation owner signer cancel held exchanges ending) :
    ∀ exchange ∈ exchanges, ¬exchange.call.Polls := by
  rcases attempted.shape with ⟨hcalls, -⟩ | ⟨before, current, asked, due, answer, rfl, hcalls, -⟩
  · exact fun exchange hmem => (hcalls exchange hmem).1
  · refine List.forall_mem_append.mpr ⟨fun exchange hmem => (hcalls exchange hmem).1, ?_⟩
    intro exchange hmem
    obtain rfl := List.mem_singleton.mp hmem
    exact id

/-- Where nothing is handed in, there are no transactions that were. -/
theorem filterMap_sent?_of_not_sends {exchanges : List Exchange}
    (h : ∀ exchange ∈ exchanges, ¬exchange.call.Sends) :
    exchanges.filterMap Exchange.sent? = [] :=
  List.filterMap_eq_nil_iff.mpr fun exchange hmem => Exchange.sent?_of_not_sends (h exchange hmem)

/-- An attempt hands in at most one transaction. -/
theorem Attempted.length_sent_le
    (attempted : Attempted client operation owner signer cancel held exchanges ending) :
    (exchanges.filterMap Exchange.sent?).length ≤ 1 := by
  rcases attempted.shape with ⟨hcalls, -⟩ | ⟨before, current, asked, due, answer, rfl, hcalls, -⟩
  · rw [filterMap_sent?_of_not_sends fun exchange hmem => (hcalls exchange hmem).2]
    exact Nat.zero_le 1
  · rw [List.filterMap_append,
      filterMap_sent?_of_not_sends fun exchange hmem => (hcalls exchange hmem).2]
    exact Nat.le_refl 1

/-- An attempt whose transaction is taken ends with handing it in. In any other attempt none is
taken. -/
theorem Attempted.taken
    (attempted : Attempted client operation owner signer cancel held exchanges ending) :
    (∀ exchange ∈ exchanges, ¬exchange.Taken) ∧
      (∀ current signature, ending ≠ .ok (.sent current signature)) ∨
    ∃ (before : List Exchange) (current : Held) (asked due : Nat) (signature : Signature),
      exchanges = before ++ [⟨.send current.signed.transaction, asked,
        (.ok signature : Except Error Signature), due⟩] ∧
      (∀ exchange ∈ before, ¬exchange.call.Sends) ∧ ending = .ok (.sent current signature) := by
  rcases attempted.shape with
    ⟨hcalls, hending⟩ | ⟨before, current, asked, due, answer, rfl, hcalls, rfl⟩
  · exact .inl ⟨fun exchange hmem htaken => (hcalls exchange hmem).2 htaken.sends, hending⟩
  · have hbefore : ∀ exchange ∈ before, ¬exchange.call.Sends :=
      fun exchange hmem => (hcalls exchange hmem).2
    cases answer with
    | ok signature => exact .inr ⟨before, current, asked, due, signature, rfl, hbefore, rfl⟩
    | error error =>
      refine .inl ⟨List.forall_mem_append.mpr ⟨?_, ?_⟩, fun _ _ h => nomatch h⟩
      · exact fun exchange hmem htaken => hbefore exchange hmem htaken.sends
      · rintro exchange hmem ⟨transaction, asked, signature, due, rfl⟩
        cases List.mem_singleton.mp hmem

/-- The error that an attempt fails with is the client's own, or was the answer to one of its
calls. -/
theorem Attempted.error {error : Error} {kept : Option Held}
    (attempted : Attempted client operation owner signer cancel held exchanges ending)
    (hending : ending = .ok (.failed error kept)) :
    error.IsOwn ∨ ∃ exchange ∈ exchanges, exchange.error? = some error := by
  cases attempted with
  | unsure =>
    cases hending
    exact .inr ⟨_, List.mem_singleton_self _, rfl⟩
  | @again _ _ _ _ answer =>
    cases answer <;> cases hending
    exact .inr ⟨_, List.mem_cons_of_mem _ (List.mem_singleton_self _), rfl⟩
  | @unmade _ _ _ _ _ stop _ run =>
    cases stop <;> cases hending
    rcases (client.confined_hold operation owner signer).error run with
      hown | ⟨exchange, hmem, herror⟩
    · exact .inl hown
    · exact .inr ⟨exchange, List.mem_append_right _ hmem, herror⟩
  | @anew _ _ _ _ _ _ _ answer _ _ =>
    cases answer <;> cases hending
    exact .inr ⟨_, List.mem_append_right _ (List.mem_singleton_self _), rfl⟩

variable (client operation owner signer cancel) in
/-- Where a transaction comes from that is held after some exchanges: it was made among them, or it
was held before. From then on it is only kept. -/
def Origin (held : Option Held) (exchanges : List Exchange) (current : Held) : Prop :=
  (held = some current ∧ ∀ exchange ∈ exchanges, exchange.call.Keeps current) ∨
  ∃ before preparing after begun done, exchanges = before ++ (preparing ++ after) ∧
    (client.hold operation owner signer).run.Ends cancel begun preparing (.ok (.ok current)) done ∧
    ∀ exchange ∈ after, exchange.call.Keeps current

/-- The transaction that is held after an attempt was made in it, or held before. -/
theorem Attempted.origin {attempt : Attempt} {current : Held}
    (attempted : Attempted client operation owner signer cancel held exchanges ending)
    (hending : ending = .ok attempt) (hcurrent : current ∈ attempt.held?) :
    Origin client operation owner signer cancel held exchanges current := by
  cases attempted with
  | unsure =>
    cases hending
    cases hcurrent
    exact .inl ⟨rfl, by simp [Call.Keeps]⟩
  | again =>
    cases hending
    rw [Attempt.held?_ofAnswer] at hcurrent
    cases hcurrent
    exact .inl ⟨rfl, by simp [Call.Keeps]⟩
  | @unmade _ _ _ _ _ stop _ _ =>
    cases stop with
    | error => cases hending
    | ok =>
      cases hending
      cases hcurrent
  | @anew _ asking preparing _ _ _ _ _ _ run =>
    cases hending
    rw [Attempt.held?_ofAnswer] at hcurrent
    cases hcurrent
    exact .inr ⟨asking, preparing, _, _, _, List.append_assoc .., run, by simp [Call.Keeps]⟩

/-- The origin of a transaction lies before what is done with it later. -/
theorem Origin.append {middle : Option Held} {first later : List Exchange} {current : Held}
    (hfirst : ∀ other ∈ middle, Origin client operation owner signer cancel held first other)
    (hlater : Origin client operation owner signer cancel middle later current) :
    Origin client operation owner signer cancel held (first ++ later) current := by
  rcases hlater with ⟨hmiddle, hkeeps⟩ | ⟨before, preparing, after, begun, done, rfl, run, hkeeps⟩
  · rcases hfirst current hmiddle with
      ⟨hheld, hfirst⟩ | ⟨before, preparing, after, begun, done, rfl, run, hfirst⟩
    · exact .inl ⟨hheld, List.forall_mem_append.mpr ⟨hfirst, hkeeps⟩⟩
    · exact .inr ⟨before, preparing, after ++ later, begun, done, by simp, run,
        List.forall_mem_append.mpr ⟨hfirst, hkeeps⟩⟩
  · exact .inr ⟨first ++ before, preparing, after, begun, done, by simp, run, hkeeps⟩

end Client

/-- An attempt of a run, by its exchanges and by how it ended, which is not at all if the run broke
off. -/
structure Try where
  exchanges : List Exchange
  ending : Except Abort Attempt

namespace Try

/-- The ledger failed in an attempt, after which there may be another one. -/
def Lost (attempt : Try) : Prop :=
  ∃ reason kept, attempt.ending = .ok (.failed (.ledger reason) kept)

/-- What an attempt comes to, if it is the last one. -/
def result (attempt : Try) : Except Abort (Except Error (Held × Signature)) :=
  attempt.ending.map Attempt.result

/-- An attempt comes to an error if it fails with it. -/
theorem result_eq_error_iff {attempt : Try} {error : Error} :
    attempt.result = .ok (.error error) ↔ ∃ kept, attempt.ending = .ok (.failed error kept) := by
  constructor
  · intro h
    obtain ⟨ended, hended, hresult⟩ := map_eq_ok_iff.mp h
    cases ended with
    | sent => cases hresult
    | failed other kept =>
      cases hresult
      exact ⟨kept, hended⟩
  · rintro ⟨kept, hended⟩
    rw [result, hended]
    rfl

end Try

namespace Client

/-- Attempts one after the other, by the transaction that is held before them. Each starts from the
one that the attempt before it left. -/
inductive Tries (client : Client) (operation : Operation) (owner : Key) (signer : Signer)
    (cancel : Option Nat) : Option Held → Nat → List Try → Nat → Prop
  | last {held : Option Held} {start finish : Nat} {exchanges : List Exchange}
      {ending : Except Abort Attempt}
      (run : (client.attempt operation owner signer held).Ends cancel start exchanges ending
        finish) :
      Tries client operation owner signer cancel held start [⟨exchanges, ending⟩] finish
  | more {held : Option Held} {start middle finish : Nat} {exchanges : List Exchange}
      {attempt : Attempt} {tries : List Try}
      (run : (client.attempt operation owner signer held).Ends cancel start exchanges (.ok attempt)
        middle)
      (later : Tries client operation owner signer cancel attempt.held? middle tries finish) :
      Tries client operation owner signer cancel held start (⟨exchanges, .ok attempt⟩ :: tries)
        finish

variable {client : Client} {operation : Operation} {owner : Key} {signer : Signer}
  {cancel : Option Nat} {held : Option Held} {start finish : Nat} {exchanges : List Exchange}

variable (client operation owner signer cancel) in
/-- The attempts of a run that has so many retries, up to the last one. -/
structure Exhausts (retries : Nat) (held : Option Held) (start : Nat) (lost : List Try)
    (final : Try) (finish : Nat) : Prop where
  tries : Tries client operation owner signer cancel held start (lost ++ [final]) finish
  length_le : lost.length ≤ retries
  /-- There is another attempt only after one that was lost to the ledger. -/
  all_lost : ∀ attempt ∈ lost, attempt.Lost
  /-- If the last attempt was lost too, there were no retries left. -/
  length_eq : final.Lost → lost.length = retries

/-- A complete run of the attempts is told by them, and the last one settles the result. -/
theorem ends_send {retries : Nat} {result : Except Abort (Except Error (Held × Signature))}
    (run : (client.send operation owner signer retries held).Ends cancel start exchanges result
      finish) :
    ∃ lost final, Exhausts client operation owner signer cancel retries held start lost final
        finish ∧
      exchanges = (lost ++ [final]).flatMap Try.exchanges ∧ result = final.result := by
  induction retries using Nat.strongRecOn generalizing held start exchanges with
  | ind retries ih =>
    have hlast {ending : Except Abort Attempt} {finish : Nat}
        (run : (client.attempt operation owner signer held).Ends cancel start exchanges ending
          finish)
        (hretries : (∃ reason kept, ending = .ok (.failed (.ledger reason) kept)) → retries = 0) :
        ∃ lost final, Exhausts client operation owner signer cancel retries held start lost final
            finish ∧
          exchanges = (lost ++ [final]).flatMap Try.exchanges ∧
          ending.map Attempt.result = final.result :=
      ⟨[], ⟨exchanges, ending⟩, ⟨.last run, Nat.zero_le _, by simp, fun h => (hretries h).symm⟩,
        by simp, rfl⟩
    rw [send] at run
    rcases Task.Ends.of_bind run with
      ⟨why, hwhy, rfl⟩ | ⟨attempt, before, after, middle, rfl, hattempt, hafter⟩
    · exact hlast hwhy fun ⟨_, _, h⟩ => nomatch h
    · -- whether this attempt is the last one depends on how it ended, and on the retries left
      have hdone (hafter : (Task.done attempt.result).Ends cancel middle after result finish)
          (hretries : (∃ reason kept, attempt = .failed (.ledger reason) kept) → retries = 0) :
          ∃ lost final, Exhausts client operation owner signer cancel retries held start lost final
              finish ∧
            before ++ after = (lost ++ [final]).flatMap Try.exchanges ∧
            result = final.result := by
        obtain ⟨rfl, rfl, rfl⟩ := Task.Ends.of_done hafter
        rw [List.append_nil] at hlast ⊢
        exact hlast hattempt fun ⟨reason, kept, h⟩ => hretries ⟨reason, kept, Except.ok.inj h⟩
      cases attempt with
      | sent current signature => exact hdone hafter fun ⟨_, _, h⟩ => nomatch h
      | failed error kept =>
        cases error with
        | ledger reason =>
          cases retries with
          | zero => exact hdone hafter fun _ => rfl
          | succ fewer =>
            obtain ⟨lost, final, hexhausts, rfl, hresult⟩ :=
              ih fewer (Nat.lt_succ_self fewer) hafter
            refine ⟨⟨before, .ok (.failed (.ledger reason) kept)⟩ :: lost, final,
              ⟨.more hattempt hexhausts.tries, Nat.succ_le_succ hexhausts.length_le,
                List.forall_mem_cons.mpr ⟨⟨reason, kept, rfl⟩, hexhausts.all_lost⟩,
                fun h => congrArg (· + 1) (hexhausts.length_eq h)⟩, by simp, hresult⟩
        | _ => exact hdone hafter fun ⟨_, _, h⟩ => nomatch h

/-- What is true of every attempt is true of the attempts of a run. -/
theorem Tries.attempted {tries : List Try}
    (htries : Tries client operation owner signer cancel held start tries finish) :
    ∀ attempt ∈ tries, ∃ before,
      Attempted client operation owner signer cancel before attempt.exchanges attempt.ending := by
  induction htries with
  | last run => exact List.forall_mem_singleton.mpr ⟨_, attempted_of_ends run⟩
  | more run _ ih => exact List.forall_mem_cons.mpr ⟨⟨_, attempted_of_ends run⟩, ih⟩

/-- Where the transaction comes from that the attempts of a run end with. -/
theorem Tries.origin {lost : List Try} {final : Try} {attempt : Attempt} {current : Held}
    (htries : Tries client operation owner signer cancel held start (lost ++ [final]) finish)
    (hfinal : final.ending = .ok attempt) (hcurrent : current ∈ attempt.held?) :
    Origin client operation owner signer cancel held ((lost ++ [final]).flatMap Try.exchanges)
      current := by
  generalize hsplit : lost ++ [final] = tries at htries ⊢
  induction htries generalizing lost with
  | last run =>
    obtain ⟨-, hlast⟩ := List.append_singleton_inj.mp (hsplit.trans (List.nil_append _).symm)
    subst hlast
    simpa using (attempted_of_ends run).origin hfinal hcurrent
  | @more held start middle finish exchanges attempt tries run later ih =>
    cases lost with
    | nil =>
      obtain ⟨-, rfl⟩ := List.cons.inj hsplit
      cases later
    | cons head lost =>
      obtain ⟨-, hlater⟩ := List.cons.inj hsplit
      rw [List.flatMap_cons]
      exact .append (fun other hother => (attempted_of_ends run).origin rfl hother) (ih hlater)

namespace Exhausts

variable {retries : Nat} {lost : List Try} {final : Try}

/-- Attempts do not poll. -/
theorem not_polls
    (h : Exhausts client operation owner signer cancel retries held start lost final finish) :
    ∀ exchange ∈ (lost ++ [final]).flatMap Try.exchanges, ¬exchange.call.Polls := by
  intro exchange hmem
  obtain ⟨attempt, hattempt, hexchange⟩ := List.mem_flatMap.mp hmem
  obtain ⟨before, attempted⟩ := h.tries.attempted attempt hattempt
  exact attempted.not_polls exchange hexchange

/-- No more transactions are handed in than there are attempts. -/
theorem length_sent_le
    (h : Exhausts client operation owner signer cancel retries held start lost final finish) :
    (((lost ++ [final]).flatMap Try.exchanges).filterMap Exchange.sent?).length ≤
      (lost ++ [final]).length := by
  have hattempted := h.tries.attempted
  generalize lost ++ [final] = tries at hattempted ⊢
  induction tries with
  | nil => exact Nat.le_refl 0
  | cons attempt tries ih =>
    obtain ⟨⟨before, attempted⟩, hlater⟩ := List.forall_mem_cons.mp hattempted
    have hfirst := attempted.length_sent_le
    have hrest := ih hlater
    rw [List.flatMap_cons, List.filterMap_append, List.length_append, List.length_cons]
    omega

/-- In attempts that were lost no transaction was taken. -/
theorem not_taken_lost
    (h : Exhausts client operation owner signer cancel retries held start lost final finish) :
    ∀ exchange ∈ lost.flatMap Try.exchanges, ¬exchange.Taken := by
  intro exchange hmem
  obtain ⟨attempt, hattempt, hexchange⟩ := List.mem_flatMap.mp hmem
  obtain ⟨before, attempted⟩ := h.tries.attempted attempt (List.mem_append_left _ hattempt)
  obtain ⟨reason, kept, hlost⟩ := h.all_lost attempt hattempt
  rcases attempted.taken with ⟨hnone, -⟩ | ⟨_, _, _, _, _, -, -, hsent⟩
  · exact hnone exchange hexchange
  · rw [hlost] at hsent
    cases hsent

/-- If the last attempt was not taken then no transaction was. -/
theorem not_taken
    (h : Exhausts client operation owner signer cancel retries held start lost final finish)
    (hfinal : ∀ current signature, final.ending ≠ .ok (.sent current signature)) :
    ∀ exchange ∈ (lost ++ [final]).flatMap Try.exchanges, ¬exchange.Taken := by
  obtain ⟨before, attempted⟩ := h.tries.attempted final (by simp)
  rcases attempted.taken with ⟨hnone, -⟩ | ⟨_, _, _, _, _, -, -, hsent⟩
  · rw [List.flatMap_append, List.flatMap_singleton]
    exact List.forall_mem_append.mpr ⟨h.not_taken_lost, hnone⟩
  · exact absurd hsent (hfinal _ _)

/-- If the last attempt was taken then its transaction is the only one that was, and handing it in
is the last thing that the attempts do. -/
theorem taken {current : Held} {signature : Signature}
    (h : Exhausts client operation owner signer cancel retries held start lost final finish)
    (hfinal : final.ending = .ok (.sent current signature)) :
    ∃ before asked due, (lost ++ [final]).flatMap Try.exchanges =
        before ++ [⟨.send current.signed.transaction, asked,
          (.ok signature : Except Error Signature), due⟩] ∧
      ∀ exchange ∈ before, ¬exchange.Taken := by
  obtain ⟨_, attempted⟩ := h.tries.attempted final (by simp)
  rcases attempted.taken with ⟨-, hnone⟩ | ⟨before, _, asked, due, _, hexchanges, hbefore, hsent⟩
  · exact absurd hfinal (hnone _ _)
  · cases hfinal.symm.trans hsent
    refine ⟨lost.flatMap Try.exchanges ++ before, asked, due, by simp [hexchanges],
      List.forall_mem_append.mpr ⟨h.not_taken_lost, ?_⟩⟩
    exact fun exchange hmem htaken => hbefore exchange hmem htaken.sends

end Exhausts

end Client

end LendingClient
