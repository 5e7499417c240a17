import LendingClient.Ledger.Scripted
import LendingClient.Proofs.Run.Complete

/-!
# Runs against a ledger that follows a script

Such a ledger is one of the worlds outside that the runs of a task tell of: what it makes of a task
is a run in which every call is answered as the script has it, and what it notes are the calls of
that run. So whatever holds of all runs of a task holds for all scripts.
-/

namespace LendingClient

/-- How a call may be noted. Reads that are asked together are noted one by one, as far as they were
started; waits, the clock and fresh keys are not noted. -/
def Call.NotedAs : Call → List Call → Prop
  | .accounts queries, noted => noted <+: queries.map fun query => .account query.address
  | .sleep _, noted | .clock, noted | .freshKey, noted => noted = []
  | call, noted => noted = [call]

/-- The notes of exchanges, on top of earlier notes. -/
def Noted (earlier : List (Nat × Call)) : List Exchange → List (Nat × Call) → Prop
  | [], notes => notes = earlier
  | exchange :: exchanges, notes => ∃ noted, exchange.call.NotedAs noted ∧
      Noted ((noted.map fun call => (exchange.asked, call)).reverse ++ earlier) exchanges notes

/-- What is noted last is the last exchange, if it hands a transaction in. -/
theorem Noted.concat_send {earlier notes : List (Nat × Call)} {exchanges : List Exchange}
    {transaction : Transaction} {asked due : Nat} {answer : Except Error Signature}
    (h : Noted earlier (exchanges ++ [⟨.send transaction, asked, answer, due⟩]) notes) :
    ∃ before, notes = (asked, .send transaction) :: before := by
  induction exchanges generalizing earlier with
  | nil =>
    obtain ⟨_, rfl, rfl⟩ := h
    exact ⟨earlier, rfl⟩
  | cons exchange exchanges ih =>
    obtain ⟨_, -, hlater⟩ := h
    exact ih hlater

namespace ScriptedLedger

variable (ledger : ScriptedLedger)

/-- Starting reads takes no time, changes no wish, and notes the reads that were started. -/
theorem startReads_spec (queries : List Query) :
    (ledger.startReads queries).2.now = ledger.now ∧
      (ledger.startReads queries).2.cancelAt = ledger.cancelAt ∧
      ∃ noted, noted <+: queries.map (fun query => Call.account query.address) ∧
        (ledger.startReads queries).2.calls =
          (noted.map fun call => (ledger.now, call)).reverse ++ ledger.calls := by
  induction queries generalizing ledger with
  | nil => exact ⟨rfl, rfl, [], List.nil_prefix, rfl⟩
  | cons query queries ih =>
    rw [startReads]
    dsimp only
    split
    · exact ⟨rfl, rfl, [.account query.address], by simp, rfl⟩
    · obtain ⟨hnow, hcancel, noted, hnoted, hcalls⟩ := ih _
      refine ⟨hnow, hcancel, .account query.address :: noted, by simpa using hnoted, ?_⟩
      rw [hcalls]
      simp [note]

/-- What becomes of a transaction takes no time, changes no wish, and notes nothing. -/
theorem afterSend_spec (signature : Except Error Signature) :
    (ledger.afterSend signature).now = ledger.now ∧
      (ledger.afterSend signature).cancelAt = ledger.cancelAt ∧
      (ledger.afterSend signature).calls = ledger.calls := by
  cases signature with
  | ok signature => exact ⟨rfl, rfl, rfl⟩
  | error error => exact ⟨rfl, rfl, rfl⟩

/-- Making a call takes no time yet, changes no wish, and notes the call. -/
theorem respond_spec (call : Call) :
    (ledger.respond call).2.2.now = ledger.now ∧
      (ledger.respond call).2.2.cancelAt = ledger.cancelAt ∧
      ∃ noted, call.NotedAs noted ∧ (ledger.respond call).2.2.calls =
        (noted.map fun call => (ledger.now, call)).reverse ++ ledger.calls := by
  cases call with
  | account address => exact ⟨rfl, rfl, [.account address], rfl, rfl⟩
  | accounts queries => exact ledger.startReads_spec queries
  | blockhash => exact ⟨rfl, rfl, [.blockhash], rfl, rfl⟩
  | send transaction =>
    rw [respond]
    exact ⟨(afterSend_spec _ _).1, (afterSend_spec _ _).2.1, [.send transaction], rfl,
      (afterSend_spec _ _).2.2⟩
  | status signature => exact ⟨rfl, rfl, [.status signature], rfl, rfl⟩
  | validity blockhash => exact ⟨rfl, rfl, [.validity blockhash], rfl, rfl⟩
  | simulate transaction => exact ⟨rfl, rfl, [.simulate transaction], rfl, rfl⟩
  | sleep millis => exact ⟨rfl, rfl, [], rfl, rfl⟩
  | clock => exact ⟨rfl, rfl, [], rfl, rfl⟩
  | freshKey => exact ⟨rfl, rfl, [], rfl, rfl⟩

/-- What the ledger makes of a task. -/
def play {α : Type} (task : Task α) : Except Abort α × ScriptedLedger :=
  (task.run handler).run ledger

variable {ledger} {α : Type} {call : Call} {cancelled : Task α} {next : call.Answer → Task α}

/-- A task that is over changes nothing. -/
@[simp]
theorem play_done (value : α) : ledger.play (.done value) = (.ok value, ledger) :=
  rfl

/-- A task that asks goes on with the answer. -/
theorem play_ask :
    ledger.play (.ask call next) = (ledger.answer call).2.play (next (ledger.answer call).1) :=
  rfl

private theorem cancelBy_eq_some_iff {instant wish : Nat} :
    ledger.cancelBy instant = some wish ↔ wish ∈ ledger.cancelAt ∧ wish ≤ instant := by
  simp [cancelBy, Option.filter_eq_some_iff]

private theorem cancelBy_eq_none_iff {instant : Nat} :
    ledger.cancelBy instant = none ↔ ∀ wish ∈ ledger.cancelAt, instant < wish := by
  simp [cancelBy, Option.filter_eq_none_iff]

/-- A task that races a call goes on with the answer, or as one that is cancelled if there is none. -/
theorem play_race {answer : Option call.Answer} {later : ScriptedLedger}
    (h : ledger.answerRacing call = (answer, later)) :
    ledger.play (.race call cancelled next) = later.play ((answer.map next).getD cancelled) := by
  have hbind (f : Option call.Answer → ExceptT Abort (StateM ScriptedLedger) α) :
      (handler.race call >>= f).run ledger =
        (f (ledger.answerRacing call).1).run (ledger.answerRacing call).2 := rfl
  rw [play, Task.run, hbind, h]
  cases answer <;> rfl

/-- A call is not made when the wish to cancel is there already. -/
theorem play_race_spare {wish : Nat} (hwish : wish ∈ ledger.cancelAt) (hnow : wish ≤ ledger.now) :
    ledger.play (.race call cancelled next) = ledger.play cancelled := by
  have hcancel : ledger.cancelBy ledger.now = some wish := cancelBy_eq_some_iff.mpr ⟨hwish, hnow⟩
  have hanswer : ledger.answerRacing call = (none, ledger) := by
    rw [answerRacing, hcancel]
    rfl
  exact play_race hanswer

/-- An answer is not heard when the wish to cancel comes by the time it is due. -/
theorem play_race_cut {wish : Nat} (hwish : wish ∈ ledger.cancelAt) (hnow : ledger.now < wish)
    (hdue : wish ≤ ledger.now + (ledger.respond call).1) :
    ledger.play (.race call cancelled next) =
      { (ledger.respond call).2.2 with now := wish }.play cancelled := by
  obtain ⟨hrespond, hcancelAt, -⟩ := ledger.respond_spec call
  have hnone : ledger.cancelBy ledger.now = none := by
    refine cancelBy_eq_none_iff.mpr fun other hother => ?_
    rwa [Option.mem_unique hother hwish]
  have hsome : (ledger.respond call).2.2.cancelBy
      ((ledger.respond call).2.2.now + (ledger.respond call).1) = some wish := by
    rw [cancelBy_eq_some_iff, hcancelAt, hrespond]
    exact ⟨hwish, hdue⟩
  have hanswer : ledger.answerRacing call =
      (none, { (ledger.respond call).2.2 with now := wish }) := by
    simp only [answerRacing, hnone, hsome, Option.isSome_none, Bool.false_eq_true, if_false]
  exact play_race hanswer

/-- An answer is heard when no wish to cancel comes by the time it is due. -/
theorem play_race_heard
    (heard : ∀ wish ∈ ledger.cancelAt, ledger.now + (ledger.respond call).1 < wish) :
    ledger.play (.race call cancelled next) =
      (ledger.answer call).2.play (next (ledger.answer call).1) := by
  obtain ⟨hrespond, hcancelAt, -⟩ := ledger.respond_spec call
  have hnone : ledger.cancelBy ledger.now = none := by
    refine cancelBy_eq_none_iff.mpr fun wish hwish => ?_
    have := heard wish hwish
    omega
  have hlater : (ledger.respond call).2.2.cancelBy
      ((ledger.respond call).2.2.now + (ledger.respond call).1) = none := by
    rw [cancelBy_eq_none_iff, hcancelAt, hrespond]
    exact heard
  have hanswer : ledger.answerRacing call =
      (some (ledger.answer call).1, (ledger.answer call).2) := by
    simp only [answerRacing, answer, hnone, hlater, Option.isSome_none, Bool.false_eq_true,
      if_false]
  exact play_race hanswer

/-- The exchanges of a task with the ledger. -/
def exchanges (ledger : ScriptedLedger) : Task α → List Exchange
  | .done _ | .abort _ => []
  | .ask call next =>
    ⟨call, ledger.now, (ledger.answer call).1, (ledger.answer call).2.now⟩ ::
      (ledger.answer call).2.exchanges (next (ledger.answer call).1)
  | .race call cancelled next =>
    match ledger.cancelBy ledger.now, ledger.cancelBy (ledger.now + (ledger.respond call).1) with
    | some _, _ => ledger.exchanges cancelled
    | none, some wish =>
      ⟨call, ledger.now, (ledger.answer call).1, (ledger.answer call).2.now⟩ ::
        { (ledger.respond call).2.2 with now := wish }.exchanges cancelled
    | none, none =>
      ⟨call, ledger.now, (ledger.answer call).1, (ledger.answer call).2.now⟩ ::
        (ledger.answer call).2.exchanges (next (ledger.answer call).1)

/-- Waiting for an answer takes as long as the answer does. -/
theorem now_answer (ledger : ScriptedLedger) (call : Call) :
    (ledger.answer call).2.now = ledger.now + (ledger.respond call).1 := by
  rw [← (ledger.respond_spec call).1]
  rfl

/-- What the ledger makes of a task is a complete run of it, and the ledger notes its exchanges. -/
theorem ends_play (task : Task α) (ledger : ScriptedLedger) :
    task.Ends ledger.cancelAt ledger.now (ledger.exchanges task) (ledger.play task).1
        (ledger.play task).2.now ∧
      Noted ledger.calls (ledger.exchanges task) (ledger.play task).2.calls := by
  induction task generalizing ledger with
  | done value => exact ⟨.refl _ _, rfl⟩
  | abort why => exact ⟨.refl _ _, rfl⟩
  | ask call next ih =>
    obtain ⟨-, hcancelAt, noted, hnoted, hcalls⟩ := ledger.respond_spec call
    obtain ⟨hrun, hlater⟩ := ih (ledger.answer call).1 (ledger.answer call).2
    rw [play_ask]
    change Task.Ends (ledger.respond call).2.2.cancelAt _ _ _ _ _ at hrun
    rw [hcancelAt] at hrun
    refine ⟨.ask ?_ hrun, noted, hnoted, ?_⟩
    · rw [now_answer]
      exact Nat.le_add_right _ _
    · rw [← hcalls]
      exact hlater
  | race call cancelled next ihCancelled ih =>
    obtain ⟨-, hcancelAt, noted, hnoted, hcalls⟩ := ledger.respond_spec call
    rw [exchanges]
    split
    · rename_i wish other hspare
      obtain ⟨hwish, hnow⟩ := cancelBy_eq_some_iff.mp hspare
      obtain ⟨hrun, hlater⟩ := ihCancelled ledger
      rw [play_race_spare hwish hnow]
      exact ⟨.spare hwish hnow hrun, hlater⟩
    · rename_i wish hnone hcut
      obtain ⟨hwish, hdue⟩ := cancelBy_eq_some_iff.mp hcut
      have hnow := cancelBy_eq_none_iff.mp hnone wish hwish
      obtain ⟨hrun, hlater⟩ := ihCancelled { (ledger.respond call).2.2 with now := wish }
      rw [play_race_cut hwish hnow hdue]
      change Task.Ends (ledger.respond call).2.2.cancelAt _ _ _ _ _ at hrun
      rw [hcancelAt] at hrun
      refine ⟨.cut hwish hnow ?_ hrun, noted, hnoted, ?_⟩
      · rwa [now_answer]
      · rw [← hcalls]
        exact hlater
    · rename_i hnone hheard
      have heard := cancelBy_eq_none_iff.mp hheard
      obtain ⟨hrun, hlater⟩ := ih (ledger.answer call).1 (ledger.answer call).2
      rw [play_race_heard heard]
      change Task.Ends (ledger.respond call).2.2.cancelAt _ _ _ _ _ at hrun
      rw [hcancelAt] at hrun
      refine ⟨.race ?_ ?_ hrun, noted, hnoted, ?_⟩
      · rw [now_answer]
        exact Nat.le_add_right _ _
      · rwa [now_answer]
      · rw [← hcalls]
        exact hlater

/-- What the ledger makes of a task, once it is worked out, is a complete run of the task. -/
theorem ends_of_play {task : Task α} {ledger : ScriptedLedger} {result : Except Abort α}
    {finish : Nat} (hresult : (ledger.play task).1 = result)
    (hfinish : (ledger.play task).2.now = finish) :
    task.Ends ledger.cancelAt ledger.now (ledger.exchanges task) result finish := by
  rw [← hresult, ← hfinish]
  exact (ends_play task ledger).1

end ScriptedLedger

end LendingClient
