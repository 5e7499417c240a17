import LendingClient.Proofs.Client.Course
import LendingClient.Proofs.Run.Wishes

/-!
# A wish to cancel cuts a run short

A transaction is handed in, polled for, and what became of it is settled. Only polling heeds a wish
to cancel. So a run with such a wish is told by the run of the same script without: the same
transaction is handed in by the same calls, and then either polling is over before the wish and
everything is the same, or polling ends when the wish comes.
-/

namespace LendingClient

open LendingClient.Action

/-- An action in three phases. -/
structure Phases (α τ : Type) where
  handIn : Action τ
  watch : τ → Task Outcome
  settle : τ → Outcome → Action α
  /-- The transaction that was handed in. -/
  transaction : τ → Transaction
  /-- The signature that it was answered with. -/
  signature : τ → Signature

/-- The phases one after the other. -/
def Phases.action {α τ : Type} (phases : Phases α τ) : Action α :=
  phases.handIn >>= fun taken => ExceptT.lift (phases.watch taken) >>= phases.settle taken

/-- The phases of carrying an operation out. -/
def Client.phases (client : Client) (operation : Operation) (signer : Signer) :
    Phases Receipt HandedIn where
  handIn := client.handIn operation signer
  watch := client.watch
  settle := client.settle operation
  transaction taken := taken.held.signed.transaction
  signature := HandedIn.signature

/-- The phases of submitting a batch. -/
def Batch.phases (batch : Batch) (polling : Polling) (signer : Signer) :
    Phases Outcome (SignedBatch × Signature) where
  handIn := do
    let signed ← SignedBatch.ofBatch batch signer
    let signature ← signed.broadcast
    return (signed, signature)
  watch taken := taken.1.confirm polling taken.2
  settle _ outcome := pure outcome
  transaction taken := taken.1.transaction
  signature := Prod.snd

/-- Submitting a batch is an action in three phases. -/
private theorem Batch.submit_eq (batch : Batch) (polling : Polling) (signer : Signer) :
    batch.submit polling signer = (batch.phases polling signer).action := by
  unfold submit Phases.action phases
  simp only [bind_assoc, pure_bind, bind_pure]

namespace ScriptedLedger

/-- A task is carried out alike, by the same calls at the same instants and with the same result,
whether there is the wish to cancel or none at all. -/
def Alike {α : Type} (ledger : ScriptedLedger) (wish : Nat) (task : Task α) : Prop :=
  (ledger.wishing (some wish)).play task =
    (((ledger.wishing none).play task).1,
      ((ledger.wishing none).play task).2.wishing (some wish))

variable {α τ : Type}

/-- How a wish to cancel cuts an action in three phases short. -/
structure CutShort (ledger : ScriptedLedger) (wish : Nat) (action : Action α) (phases : Phases α τ)
    (cancelled : τ → Except Error α) : Prop where
  action_eq : action = phases.action
  /-- The transaction is handed in alike. -/
  handIn : ledger.Alike wish phases.handIn.run
  /-- The last call of handing in is the one that was answered with the signature. -/
  sent : ∀ taken later, (ledger.wishing none).play phases.handIn.run = (.ok (.ok taken), later) →
    ∃ asked earlier, later.calls = (asked, .send (phases.transaction taken)) :: earlier
  /-- If no transaction is taken, everything is alike. -/
  untaken : (∀ taken, ((ledger.wishing none).play phases.handIn.run).1 ≠ .ok (.ok taken)) →
    ledger.Alike wish action.run
  /-- If polling is over before the wish, everything is alike. -/
  finished : ∀ taken later,
    (ledger.wishing none).play phases.handIn.run = (.ok (.ok taken), later) →
    (later.play (phases.watch taken)).2.now < wish → ledger.Alike wish action.run
  /-- Otherwise polling is cut short, and so is the whole run. -/
  cut : ∀ taken later, (ledger.wishing none).play phases.handIn.run = (.ok (.ok taken), later) →
    wish ≤ (later.play (phases.watch taken)).2.now →
    CutAt wish (.expired (phases.signature taken) .cancelled) later
        (later.play (phases.watch taken))
        ((later.wishing (some wish)).play (phases.watch taken)) ∧
      (ledger.wishing (some wish)).play action.run =
        (.ok (cancelled taken), ((later.wishing (some wish)).play (phases.watch taken)).2)

variable {β : Type} {ledger later : ScriptedLedger} {cancel : Option Nat}

private theorem play_lift_ok {task : Task α} {value : α} {f : α → Action β}
    (h : ledger.play task = (.ok value, later)) :
    ledger.play (ExceptT.lift task >>= f).run = later.play (f value).run := by
  have hlift : ledger.play (ExceptT.lift task : Action α).run = (.ok (.ok value), later) :=
    play_bind_ok h
  exact play_action_ok hlift

private theorem play_lift_error {task : Task α} {why : Abort} {f : α → Action β}
    (h : ledger.play task = (.error why, later)) :
    ledger.play (ExceptT.lift task >>= f).run = (.error why, later) := by
  have hlift : ledger.play (ExceptT.lift task : Action α).run = (.error why, later) :=
    play_bind_error h
  exact play_bind_error hlift

/-- A task that races nothing is carried out alike. -/
theorem alike_of_asks {task : Task α} {allowed : Call → Prop} (htask : task.Asks allowed)
    (ledger : ScriptedLedger) (wish : Nat) : ledger.Alike wish task := by
  rw [Alike, play_wishing htask, play_wishing htask]
  rfl

/-- Phases of which only polling heeds a wish to cancel, and does so at every call. -/
structure Heeding (phases : Phases α τ) (cancelled : τ → Except Error α) : Prop where
  handIn : phases.handIn.run.Asks fun _ => True
  raced : ∀ taken, (phases.watch taken).Raced (.expired (phases.signature taken) .cancelled)
  begins : ∀ taken, ∃ call cancelled next, phases.watch taken = .race call cancelled next
  settle : ∀ taken outcome, (phases.settle taken outcome).run.Asks fun _ => True
  settle_cancelled : ∀ taken,
    (phases.settle taken (.expired (phases.signature taken) .cancelled)).run =
      .done (cancelled taken)
  /-- Handing in ends with the call that is answered with the signature. -/
  sends : ∀ {cancel start exchanges taken finish},
    phases.handIn.run.Ends cancel start exchanges (.ok (.ok taken)) finish →
    ∃ before asked due, exchanges = before ++ [⟨.send (phases.transaction taken), asked,
      (.ok (phases.signature taken) : Except Error Signature), due⟩]

variable {phases : Phases α τ} {cancelled : τ → Except Error α} {wish : Nat} {taken : τ}

private theorem cancelAt_of_play {task : Task α} {result : Except Abort α}
    (h : (ledger.wishing cancel).play task = (result, later)) : later.cancelAt = cancel := by
  have hlater := later_play task (ledger.wishing cancel)
  rw [h] at hlater
  exact hlater.cancelAt

/-- Where handing in does not come to a transaction that is taken, a wish to cancel changes
nothing. -/
theorem Heeding.untaken (h : Heeding phases cancelled)
    (hnone : ∀ taken, ((ledger.wishing none).play phases.handIn.run).1 ≠ .ok (.ok taken)) :
    ledger.Alike wish phases.action.run := by
  have hhandIn := alike_of_asks h.handIn ledger wish
  rw [Alike] at hhandIn ⊢
  generalize hplay : (ledger.wishing none).play phases.handIn.run = played at hnone hhandIn
  obtain ⟨result, later⟩ := played
  obtain ⟨stop, rfl⟩ : ∃ stop : Except Abort Error, result = stop.map .error := by
    cases result with
    | error why => exact ⟨.error why, rfl⟩
    | ok result =>
      cases result with
      | error error => exact ⟨.ok error, rfl⟩
      | ok taken => exact absurd rfl (hnone taken)
  have hquiet : (ledger.wishing none).play phases.action.run = (stop.map .error, later) :=
    play_action_stop hplay
  have hhasty : (ledger.wishing (some wish)).play phases.action.run =
      (stop.map .error, later.wishing (some wish)) := play_action_stop hhandIn
  rw [hquiet, hhasty]

/-- A transaction that is taken without a wish to cancel is taken with one, and then polled for. -/
theorem Heeding.play_taken (h : Heeding phases cancelled)
    (hplay : (ledger.wishing none).play phases.handIn.run = (.ok (.ok taken), later)) :
    (ledger.wishing (some wish)).play phases.action.run =
      (later.wishing (some wish)).play
        (ExceptT.lift (phases.watch taken) >>= phases.settle taken).run := by
  have hhandIn := alike_of_asks h.handIn ledger wish
  rw [Alike, hplay] at hhandIn
  exact play_action_ok hhandIn

/-- A wish that comes when polling is over changes nothing. -/
theorem Heeding.finished (h : Heeding phases cancelled)
    (hplay : (ledger.wishing none).play phases.handIn.run = (.ok (.ok taken), later))
    (hwish : (later.play (phases.watch taken)).2.now < wish) :
    ledger.Alike wish phases.action.run := by
  have hquiet := cancelAt_of_play hplay
  have hwatch := play_raced_of_lt (h.raced taken) hquiet hwish
  have hstart : (ledger.wishing none).play phases.action.run =
      later.play (ExceptT.lift (phases.watch taken) >>= phases.settle taken).run :=
    play_action_ok hplay
  rw [Alike, hstart, h.play_taken hplay]
  generalize hwatched : later.play (phases.watch taken) = watched at hwatch
  obtain ⟨result, settled⟩ := watched
  cases result with
  | error why => rw [play_lift_error hwatched, play_lift_error hwatch]
  | ok outcome =>
    rw [play_lift_ok hwatched, play_lift_ok hwatch]
    exact play_wishing (h.settle taken outcome)

/-- A wish that comes before polling is over cuts it short, and the action ends as one that was
cancelled. -/
theorem Heeding.cut (h : Heeding phases cancelled)
    (hplay : (ledger.wishing none).play phases.handIn.run = (.ok (.ok taken), later))
    (hwish : wish ≤ (later.play (phases.watch taken)).2.now) :
    CutAt wish (.expired (phases.signature taken) .cancelled) later
        (later.play (phases.watch taken))
        ((later.wishing (some wish)).play (phases.watch taken)) ∧
      (ledger.wishing (some wish)).play phases.action.run =
        (.ok (cancelled taken), ((later.wishing (some wish)).play (phases.watch taken)).2) := by
  have hquiet := cancelAt_of_play hplay
  have hcut := play_raced_of_le (h.raced taken) hquiet (.inr (h.begins taken)) hwish
  refine ⟨hcut, ?_⟩
  have hstopped : (later.wishing (some wish)).play (phases.watch taken) =
      (.ok (.expired (phases.signature taken) .cancelled),
        ((later.wishing (some wish)).play (phases.watch taken)).2) := Prod.ext hcut.result rfl
  rw [h.play_taken hplay, play_lift_ok hstopped, h.settle_cancelled, play_done]

/-- A wish to cancel cuts phases short of which only polling heeds it. -/
theorem Heeding.cutShort (h : Heeding phases cancelled) (ledger : ScriptedLedger) (wish : Nat) :
    CutShort ledger wish phases.action phases cancelled where
  action_eq := rfl
  handIn := alike_of_asks h.handIn ledger wish
  sent taken later hplay := by
    obtain ⟨hrun, hnoted⟩ := ends_play phases.handIn.run (ledger.wishing none)
    rw [hplay] at hrun hnoted
    obtain ⟨before, asked, due, hexchanges⟩ := h.sends hrun
    rw [hexchanges] at hnoted
    obtain ⟨earlier, hcalls⟩ := hnoted.concat_send
    exact ⟨asked, earlier, hcalls⟩
  untaken := h.untaken
  finished _ _ := h.finished
  cut _ _ := h.cut

end ScriptedLedger

namespace SignedBatch

variable (signed : SignedBatch) (polling : Polling) (signature : Signature)

/-- Polling can be cancelled at each of its calls, and ends alike then. -/
theorem raced_pollOn (left number strikes : Nat) :
    (signed.pollOn polling signature left number strikes).Raced
      (.expired signature .cancelled) := by
  induction left generalizing number strikes with
  | zero => trivial
  | succ left ih =>
    rw [pollOn_succ]
    refine ⟨rfl, fun _ => ⟨rfl, fun status => ?_⟩⟩
    rcases signed.afterStatus_cases polling signature left (number + 1) strikes status with
      ⟨-, hlanded⟩ | ⟨why, -, hrefused⟩ | ⟨-, hopen⟩
    · rw [hlanded]
      trivial
    · rw [hrefused]
      exact ⟨rfl, fun _ => trivial⟩
    · rw [hopen]
      refine ⟨rfl, fun answer => ?_⟩
      rcases signed.goOn_cases polling signature left (number + 1) strikes answer with
        ⟨-, -, hgone⟩ | ⟨strikes', hon, -⟩
      · rw [hgone]
        trivial
      · rw [hon]
        exact ih (number + 1) strikes'

/-- Polling begins with a call if there is any poll at all. -/
theorem confirm_begins (hpolls : 1 ≤ polling.maxPolls) :
    ∃ call cancelled next, signed.confirm polling signature = .race call cancelled next := by
  obtain ⟨left, hleft⟩ := Nat.exists_eq_add_of_le' hpolls
  rw [confirm, hleft, pollOn_succ]
  exact ⟨_, _, _, rfl⟩

end SignedBatch

namespace Client

variable (client : Client) (operation : Operation) (owner : Key) (signer : Signer)

private theorem asks_sendHeld (held : Held) : (sendHeld held).Asks fun _ => True := by
  change (Task.ask (.send held.signed.transaction) _).Asks _
  exact ⟨trivial, fun answer => by cases answer <;> trivial⟩

private theorem asks_sendAnew : (client.sendAnew operation owner signer).Asks fun _ => True := by
  have hhold := (client.confined_hold operation owner signer).asks.mono fun _ _ => trivial
  refine Task.Asks.bind hhold fun result _ => ?_
  cases result with
  | ok held => exact asks_sendHeld held
  | error => trivial

private theorem asks_attempt (held : Option Held) :
    (client.attempt operation owner signer held).Asks fun _ => True := by
  cases held with
  | none => exact client.asks_sendAnew operation owner signer
  | some held =>
    rw [attempt_some]
    refine ⟨trivial, fun answer => ?_⟩
    cases answer with
    | error => trivial
    | ok good =>
      cases good with
      | true => exact asks_sendHeld held
      | false => exact client.asks_sendAnew operation owner signer

private theorem asks_send (retries : Nat) (held : Option Held) :
    (client.send operation owner signer retries held).Asks fun _ => True := by
  induction retries using Nat.strongRecOn generalizing held with
  | ind retries ih =>
    rw [send]
    refine Task.Asks.bind (client.asks_attempt operation owner signer held) fun attempt _ => ?_
    cases attempt with
    | sent => trivial
    | failed error kept =>
      cases error with
      | ledger reason =>
        cases retries with
        | zero => trivial
        | succ fewer => exact ih fewer (Nat.lt_succ_self fewer) kept
      | _ => trivial

private theorem asks_loanAfter : (client.loanAfter operation owner).Asks fun _ => True := by
  unfold loanAfter
  split
  · refine Task.Asks.bind ((Read.own_optional _).perform.asks.mono fun _ _ => trivial)
      fun result _ => ?_
    cases result <;> trivial
  · trivial

/-- Of carrying an operation out only polling heeds a wish to cancel. -/
theorem heeding_phases (hpolls : 1 ≤ client.polling.maxPolls) :
    ScriptedLedger.Heeding (client.phases operation signer)
      fun _ => .error (.expired .cancelled) where
  handIn := asks_bind (asks_plan _) fun owner =>
    asks_bind (client.asks_send operation owner signer client.retries none) fun _ => trivial
  raced taken := taken.held.signed.raced_pollOn client.polling taken.signature _ _ _
  begins taken := taken.held.signed.confirm_begins client.polling taken.signature hpolls
  settle taken outcome := asks_bind (asks_plan _) fun signature =>
    asks_bind (asks_lift (client.asks_loanAfter operation taken.owner)) fun _ => trivial
  settle_cancelled taken := rfl
  sends run := by
    rcases ends_handIn run with
      ⟨_, -, -, hresult⟩ | ⟨owner, lost, final, -, hexhausts, rfl, hresult⟩
    · cases hresult
    · rcases hresult with ⟨stop, -, hstop⟩ | ⟨held, signature, hsent, htaken⟩
      · cases stop <;> cases hstop
      · cases htaken
        obtain ⟨before, asked, due, hexchanges, -⟩ := hexhausts.taken hsent
        exact ⟨before, asked, due, hexchanges⟩

end Client

/-- Of submitting a batch only polling heeds a wish to cancel. -/
theorem Batch.heeding_phases (batch : Batch) (polling : Polling) (signer : Signer)
    (hpolls : 1 ≤ polling.maxPolls) :
    ScriptedLedger.Heeding (batch.phases polling signer)
      fun taken => .ok (.expired taken.2 .cancelled) where
  handIn := asks_bind ((SignedBatch.confined_ofBatch batch signer).asks.mono fun _ _ => trivial)
    fun signed => ⟨trivial, fun answer => by cases answer <;> trivial⟩
  raced taken := taken.1.raced_pollOn polling taken.2 _ _ _
  begins taken := taken.1.confirm_begins polling taken.2 hpolls
  settle taken outcome := trivial
  settle_cancelled taken := rfl
  sends run := by
    obtain ⟨signed, signing, _, _, rfl, -, hbroadcast⟩ := ends_bind_ok run
    obtain ⟨signature, _, _, _, rfl, hsend, hpure⟩ := ends_bind_ok hbroadcast
    obtain ⟨answer, due, _, -, rfl, hanswer⟩ := Task.Ends.of_ask hsend
    obtain ⟨rfl, hsignature, rfl⟩ := Task.Ends.of_done hanswer
    cases hsignature
    obtain ⟨rfl, htaken, -⟩ := Task.Ends.of_done hpure
    cases htaken
    exact ⟨signing, _, _, rfl⟩

/-- A wish to cancel cuts a run short and does nothing else, be it that an operation is carried out
or that a batch is submitted: nothing changes up to the transaction that is taken, nor at all if
polling is over before the wish. Otherwise polling ends when the wish comes, or at once if it was
there before, and has made the calls that it would have made until then. That holds also if the
transaction was refused, and the wish comes while that is looked into. -/
theorem cutShort_of_wish :
    (∀ (client : Client) (operation : Operation) (signer : Signer) (ledger : ScriptedLedger)
        (wish : Nat), 1 ≤ client.polling.maxPolls →
      ledger.CutShort wish (client.execute operation signer) (client.phases operation signer)
        fun _ => .error (.expired .cancelled)) ∧
    ∀ (batch : Batch) (polling : Polling) (signer : Signer) (ledger : ScriptedLedger) (wish : Nat),
      1 ≤ polling.maxPolls →
      ledger.CutShort wish (batch.submit polling signer) (batch.phases polling signer)
        fun taken => .ok (.expired taken.2 .cancelled) := by
  constructor
  · intro client operation signer ledger wish hpolls
    rw [client.execute_eq]
    exact (client.heeding_phases operation signer hpolls).cutShort ledger wish
  · intro batch polling signer ledger wish hpolls
    rw [batch.submit_eq]
    exact (batch.heeding_phases polling signer hpolls).cutShort ledger wish

/-- A batch without an instruction of the program. -/
def Batch.sample : Batch :=
  .headed .liquidate (Octets.filled 32 2) []

/-- A wish that comes at the very instant of the verdict still cuts the run short. So does one
between two polls, here at a ledger that never has a verdict. -/
theorem cutShort_of_wish_lossy :
    lossyLedger.CutShort 4300 (Client.sample.execute .sample .sample)
        (Client.sample.phases .sample .sample) (fun _ => .error (.expired .cancelled)) ∧
      ((lossyLedger.wishing (some 4300)).play (Client.sample.execute .sample .sample).run).1 =
        .ok (.error (.expired .cancelled)) ∧
      ScriptedLedger.CutShort {} 3000 (Batch.sample.submit ⟨2000, 2, 2⟩ .sample)
        (Batch.sample.phases ⟨2000, 2, 2⟩ .sample)
        (fun taken => .ok (.expired taken.2 .cancelled)) ∧
      ((ScriptedLedger.wishing {} (some 3000)).play
          (Batch.sample.submit ⟨2000, 2, 2⟩ .sample).run).1 =
        .ok (.ok (.expired (Octets.filled 64 3) .cancelled)) :=
  ⟨cutShort_of_wish.1 _ _ _ lossyLedger 4300 (by decide), by decide +kernel,
    cutShort_of_wish.2 _ _ _ {} 3000 (by decide), by decide +kernel⟩

end LendingClient
