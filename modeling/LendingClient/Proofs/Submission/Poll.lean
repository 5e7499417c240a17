import LendingClient.Proofs.Run.Action
import LendingClient.Submission.Confirm

/-!
# Polls, call by call

Polling as a tree of calls. Every call of it is raced against the caller's wish to cancel: the wait,
the read of the status, and then either the simulation of a transaction that was refused or the
question about the block hash.
-/

namespace LendingClient

/-- What is known of a refused transaction once it was run again without effect. -/
def FailureReport.ofAnswer (why : Rejection) : Except Error Simulation → FailureReport
  | .ok simulation => ⟨why, some simulation, none⟩
  | .error error => ⟨why, none, some error.message⟩

/-- The verdict of a report is the one that was read, whatever the simulation was answered. -/
@[simp]
theorem FailureReport.rejection_ofAnswer (why : Rejection) (answer : Except Error Simulation) :
    (FailureReport.ofAnswer why answer).rejection = why := by
  cases answer <;> rfl

namespace SignedBatch

variable (signed : SignedBatch) (polling : Polling) (signature : Signature)

/-- The end of polling when the caller wishes to cancel. -/
def stopped : Task Outcome :=
  .done (.expired signature .cancelled)

/-- How polling goes on when a poll without a verdict has asked after the block hash. -/
def goOn (left number strikes : Nat) : Except Error Bool → Task Outcome
  | .ok true => signed.pollOn polling signature left number 0
  | .ok false =>
    if polling.expiryStrikes ≤ strikes + 1 then .done (.expired signature .blockhashExpired)
    else signed.pollOn polling signature left number (strikes + 1)
  | .error _ => signed.pollOn polling signature left number strikes

/-- How a poll without a verdict goes on: it asks after the block hash. -/
def askHash (left number strikes : Nat) : Task Outcome :=
  .race (.validity signed.blockhash) (stopped signature)
    (signed.goOn polling signature left number strikes)

/-- How a refusal is looked into. -/
def lookInto (why : Rejection) : Task Outcome :=
  .race (.simulate signed.transaction) (stopped signature) fun answer =>
    .done (.failed signature (.ofAnswer why answer))

/-- What follows upon the status of a signature. -/
def afterStatus (left number strikes : Nat) : Except Error (Option Verdict) → Task Outcome
  | .ok (some .landed) => .done (.confirmed signature number)
  | .ok (some (.refused why)) => signed.lookInto signature why
  | .ok none | .error _ => signed.askHash polling signature left number strikes

/-- How polling goes on from what a poll found, if the caller did not wish to cancel meanwhile. -/
def afterPoll (left number strikes : Nat) : Option PollResult → Task Outcome
  | none => stopped signature
  | some (.settled outcome) => .done outcome
  | some .pending => signed.goOn polling signature left number strikes (.ok true)
  | some .invalid => signed.goOn polling signature left number strikes (.ok false)
  | some .unread => signed.pollOn polling signature left number strikes

/-- A poll that asks after the block hash goes on with what it was answered. -/
theorem bind_pollValidity (left number strikes : Nat) :
    signed.pollValidity.run.bind (signed.afterPoll polling signature left number strikes) =
      signed.askHash polling signature left number strikes := by
  refine congrArg (Task.race (.validity signed.blockhash) (stopped signature))
    (funext fun answer => ?_)
  cases answer with
  | error error => rfl
  | ok good => cases good <;> rfl

/-- A poll waits, reads the status and goes on from there. -/
theorem pollOn_succ (left number strikes : Nat) :
    signed.pollOn polling signature (left + 1) number strikes =
      .race (.sleep polling.interval) (stopped signature) fun _ =>
        .race (.status signature) (stopped signature)
          (signed.afterStatus polling signature left (number + 1) strikes) := by
  have hpoll : signed.pollOn polling signature (left + 1) number strikes =
      (signed.poll polling signature (number + 1)).run.bind
        (signed.afterPoll polling signature left (number + 1) strikes) := by
    rw [pollOn]
    refine congrArg (Task.bind _) (funext fun found => ?_)
    cases found with
    | none => rfl
    | some found => cases found <;> rfl
  rw [hpoll]
  refine congrArg (Task.race _ (stopped signature)) (funext fun _ => ?_)
  refine congrArg (Task.race (.status signature) (stopped signature)) (funext fun status => ?_)
  cases status with
  | error error => exact signed.bind_pollValidity polling signature left (number + 1) strikes
  | ok read =>
    cases read with
    | none => exact signed.bind_pollValidity polling signature left (number + 1) strikes
    | some verdict =>
      cases verdict with
      | landed => rfl
      | refused why =>
        refine congrArg (Task.race (.simulate signed.transaction) (stopped signature))
          (funext fun answer => ?_)
        cases answer <;> rfl

/-- After a poll without a verdict polling gives up, if the block hash is gone and this was one
strike too many, or it polls on. There are strikes then only if the hash was found gone and not good
since. -/
theorem goOn_cases (left number strikes : Nat) (answer : Except Error Bool) :
    (answer = .ok false ∧ polling.expiryStrikes ≤ strikes + 1 ∧
      signed.goOn polling signature left number strikes answer =
        .done (.expired signature .blockhashExpired)) ∨
    ∃ strikes', signed.goOn polling signature left number strikes answer =
        signed.pollOn polling signature left number strikes' ∧
      (0 < strikes' → answer = .ok false ∨ answer ≠ .ok true ∧ 0 < strikes) := by
  cases answer with
  | error error => exact .inr ⟨strikes, rfl, by simp⟩
  | ok good =>
    cases good with
    | true => exact .inr ⟨0, rfl, by simp⟩
    | false =>
      rcases Nat.lt_or_ge (strikes + 1) polling.expiryStrikes with hlt | hge
      · exact .inr ⟨strikes + 1, if_neg (Nat.not_le_of_lt hlt), fun _ => .inl rfl⟩
      · exact .inl ⟨rfl, hge, if_pos hge⟩

/-- A verdict ends polling, at once or after a look into it. Without one the block hash is asked
after. -/
theorem afterStatus_cases (left number strikes : Nat) (status : Except Error (Option Verdict)) :
    (status = .ok (some .landed) ∧
      signed.afterStatus polling signature left number strikes status =
        .done (.confirmed signature number)) ∨
    (∃ why, status = .ok (some (.refused why)) ∧
      signed.afterStatus polling signature left number strikes status =
        signed.lookInto signature why) ∨
    ((∀ verdict, status ≠ .ok (some verdict)) ∧
      signed.afterStatus polling signature left number strikes status =
        signed.askHash polling signature left number strikes) := by
  cases status with
  | error error => exact .inr (.inr ⟨by simp, rfl⟩)
  | ok read =>
    cases read with
    | none => exact .inr (.inr ⟨by simp, rfl⟩)
    | some verdict =>
      cases verdict with
      | landed => exact .inl ⟨rfl, rfl⟩
      | refused why => exact .inr (.inl ⟨why, rfl, rfl⟩)

variable {signed polling signature}

/-- Polling that is over without having been cancelled has heard the answer to every call. -/
theorem reaches_heard {call : Call} {next : call.Answer → Task Outcome} {outcome : Outcome}
    {cancel : Option Nat} {start finish : Nat} {exchanges : List Exchange}
    (run : (Task.race call (stopped signature) next).Reaches cancel start exchanges (.done outcome)
      finish) (houtcome : outcome ≠ .expired signature .cancelled) :
    ∃ (answer : call.Answer) (due : Nat) (later : List Exchange),
      start ≤ due ∧ (∀ wish ∈ cancel, due < wish) ∧
      exchanges = ⟨call, start, answer, due⟩ :: later ∧
      (next answer).Reaches cancel due later (.done outcome) finish := by
  have hstopped {start : Nat} {exchanges : List Exchange}
      (run : (stopped signature).Reaches cancel start exchanges (.done outcome) finish) :
      False := by
    obtain ⟨-, hdone, -⟩ := Task.Reaches.of_done run
    exact houtcome (Task.done.inj hdone)
  cases run with
  | @race _ _ _ _ due _ answer later _ hdue heard run =>
    exact ⟨answer, due, later, hdue, heard, rfl, run⟩
  | cut _ _ _ run => exact (hstopped run).elim
  | spare _ _ run => exact (hstopped run).elim

variable (signed polling signature)

/-- The calls that polling may make: all of them are about the one signature and the one
transaction. -/
def Watches : Call → Prop
  | .sleep millis => millis = polling.interval
  | .status other => other = signature
  | .validity blockhash => blockhash = signed.blockhash
  | .simulate transaction => transaction = signed.transaction
  | _ => False

/-- Polling makes no calls but those of watching the transaction. -/
private theorem only_pollOn (left number strikes : Nat) :
    (signed.pollOn polling signature left number strikes).Only
      (signed.Watches polling signature) := by
  induction left generalizing number strikes with
  | zero => trivial
  | succ left ih =>
    rw [pollOn_succ]
    refine ⟨rfl, trivial, fun _ => ⟨rfl, trivial, fun status => ?_⟩⟩
    rcases signed.afterStatus_cases polling signature left (number + 1) strikes status with
      ⟨-, hlanded⟩ | ⟨why, -, hrefused⟩ | ⟨-, hopen⟩
    · rw [hlanded]
      trivial
    · rw [hrefused]
      exact ⟨rfl, trivial, fun _ => trivial⟩
    · rw [hopen]
      refine ⟨rfl, trivial, fun answer => ?_⟩
      rcases signed.goOn_cases polling signature left (number + 1) strikes answer with
        ⟨-, -, hgone⟩ | ⟨strikes', hon, -⟩
      · rw [hgone]
        trivial
      · rw [hon]
        exact ih (number + 1) strikes'

/-- Polling hands nothing in, prepares nothing, and asks about nothing but its transaction. -/
theorem only_confirm :
    (signed.confirm polling signature).Only (signed.Watches polling signature) :=
  signed.only_pollOn polling signature polling.maxPolls 0 0

/-- A signed batch without instructions. -/
def blank : SignedBatch where
  kind := .buy
  transaction := ⟨[Octets.filled 64 0], ⟨⟨1, 0, 0⟩, [Octets.filled 32 0], Octets.filled 32 0, []⟩⟩
  blockhash := Octets.filled 32 0

end SignedBatch

end LendingClient
