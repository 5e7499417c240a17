import LendingClient.Ledger.Scripted
import LendingClient.Proofs.Run.Scripted
import LendingClient.Proofs.Submission.Poll

/-!
# What becomes of a refusal

Once a poll has read that the transaction was refused, nothing is left to find out; the transaction
is only run once more without effect, for the report. But that simulation is raced against the
caller's wish to cancel, like any other call. So the refusal is what the run ends with unless the
wish comes before the simulation is over, and then the run ends as if there had been no verdict.
-/

namespace LendingClient

/-- A status was read, and it says that the transaction was refused. -/
def Exchange.refusal (signature : Signature) (why : Rejection) (asked told : Nat) : Exchange :=
  ⟨.status signature, asked, (.ok (some (.refused why)) : Except Error (Option Verdict)), told⟩

namespace SignedBatch

variable {signed : SignedBatch} {polling : Polling} {signature : Signature} {cancel : Option Nat}
  {left number strikes start finish : Nat} {before more : List Exchange}

/-- Where a run of polling stands after its next exchange: it has heard the answer and goes on with
it, or the wish to cancel came by the time the answer was due, and it is over. -/
theorem reaches_cons {call : Call} {next : call.Answer → Task Outcome} {exchange : Exchange}
    {rest : Task Outcome}
    (run : (Task.race call (stopped signature) next).Reaches cancel start (exchange :: more) rest
      finish) :
    ∃ (answer : call.Answer) (due : Nat), exchange = ⟨call, start, answer, due⟩ ∧ start ≤ due ∧
      (((∀ wish ∈ cancel, due < wish) ∧ (next answer).Reaches cancel due more rest finish) ∨
      ∃ wish ∈ cancel, wish ≤ due ∧ more = [] ∧ rest = stopped signature ∧ finish = wish) := by
  cases run with
  | @race _ _ _ _ due _ answer _ _ hdue heard later =>
    exact ⟨answer, due, rfl, hdue, .inl ⟨heard, later⟩⟩
  | @cut _ _ _ _ due _ wish answer _ _ hwish hnow hdue later =>
    refine ⟨answer, due, rfl, by omega, .inr ⟨wish, hwish, hdue, ?_⟩⟩
    exact Task.Reaches.of_done later
  | spare _ _ later =>
    obtain ⟨hnil, -, -⟩ := Task.Reaches.of_done later
    cases hnil

variable {why : Rejection} {asked told : Nat} {rest : Task Outcome}

/-- A call that is not about a status is answered before a refusal is read. -/
theorem reaches_before_refusal {call : Call} {next : call.Answer → Task Outcome}
    (hcall : ∀ other, call ≠ .status other)
    (run : (Task.race call (stopped signature) next).Reaches cancel start
      (before ++ .refusal signature why asked told :: more) rest finish) :
    ∃ (answer : call.Answer) (due : Nat) (between : List Exchange),
      (next answer).Reaches cancel due (between ++ .refusal signature why asked told :: more) rest
        finish := by
  cases before with
  | nil =>
    obtain ⟨answer, due, hrefusal, -⟩ := reaches_cons run
    exact absurd (congrArg Exchange.call hrefusal).symm (hcall signature)
  | cons exchange between =>
    obtain ⟨answer, due, -, -, ⟨-, hlater⟩ | ⟨_, -, -, hnil, -⟩⟩ := reaches_cons run
    · exact ⟨answer, due, between, hlater⟩
    · simp at hnil

/-- When polling is over no refusal is read any more. -/
theorem not_reaches_refusal {value : Outcome}
    (run : (Task.done value).Reaches cancel start
      (before ++ .refusal signature why asked told :: more) rest finish) : False := by
  obtain ⟨hnil, -, -⟩ := Task.Reaches.of_done run
  simp at hnil

/-- After a refusal that was heard, polling looks into it. -/
theorem reaches_refused (heard : ∀ wish ∈ cancel, told < wish)
    (run : (signed.pollOn polling signature left number strikes).Reaches cancel start
      (before ++ .refusal signature why asked told :: more) rest finish) :
    (signed.lookInto signature why).Reaches cancel told more rest finish := by
  induction left generalizing number strikes start before with
  | zero => exact (not_reaches_refusal run).elim
  | succ left ih =>
    rw [pollOn_succ] at run
    obtain ⟨-, woke, between, hstatus⟩ := reaches_before_refusal (by simp) run
    cases between with
    | nil =>
      obtain ⟨answer, due, hrefusal, -, hlater⟩ := reaches_cons hstatus
      cases hrefusal
      rcases hlater with ⟨-, hlater⟩ | ⟨wish, hwish, hdue, -⟩
      · exact hlater
      · exact absurd (heard wish hwish) (Nat.not_lt_of_le hdue)
    | cons exchange between =>
      -- the refusal comes later, so this status had no verdict and the block hash was not given up
      obtain ⟨status, due, -, -, ⟨-, hlater⟩ | ⟨_, -, -, hnil, -⟩⟩ := reaches_cons hstatus
      · rcases signed.afterStatus_cases polling signature left (number + 1) strikes status with
          ⟨-, hlanded⟩ | ⟨other, -, hrefused⟩ | ⟨-, hopen⟩
        · rw [hlanded] at hlater
          exact (not_reaches_refusal hlater).elim
        · rw [hrefused] at hlater
          obtain ⟨_, _, _, hreport⟩ := reaches_before_refusal (by simp) hlater
          exact (not_reaches_refusal hreport).elim
        · rw [hopen] at hlater
          obtain ⟨answer, _, _, hgoOn⟩ := reaches_before_refusal (by simp) hlater
          rcases signed.goOn_cases polling signature left (number + 1) strikes answer with
            ⟨-, -, hgone⟩ | ⟨strikes', hon, -⟩
          · rw [hgone] at hgoOn
            exact (not_reaches_refusal hgoOn).elim
          · rw [hon] at hgoOn
            exact ih hgoOn
      · simp at hnil

/-- How looking into a refusal ends: with the refusal when the simulation was answered before the
wish to cancel, and cancelled when it was not. -/
theorem reaches_lookInto_iff {outcome : Outcome} (heard : ∀ wish ∈ cancel, told < wish) :
    (signed.lookInto signature why).Reaches cancel told more (.done outcome) finish ↔
      ∃ (answer : Except Error Simulation) (due : Nat), told ≤ due ∧
        more = [⟨.simulate signed.transaction, told, answer, due⟩] ∧
        ((∀ wish ∈ cancel, due < wish) ∧
            outcome = .failed signature (.ofAnswer why answer) ∧ finish = due ∨
          ∃ wish ∈ cancel, wish ≤ due ∧
            outcome = .expired signature .cancelled ∧ finish = wish) := by
  constructor
  · intro run
    cases more with
    | nil =>
      cases run with
      | spare hwish hnow _ => exact absurd (heard _ hwish) (Nat.not_lt_of_le hnow)
    | cons exchange more =>
      obtain ⟨answer, due, rfl, hdue, hlater⟩ := reaches_cons run
      refine ⟨answer, due, hdue, ?_⟩
      rcases hlater with ⟨hheard, hlater⟩ | ⟨wish, hwish, hcut, rfl, hrest, rfl⟩
      · obtain ⟨rfl, hdone, rfl⟩ := Task.Reaches.of_done hlater
        exact ⟨rfl, .inl ⟨hheard, Task.done.inj hdone, rfl⟩⟩
      · exact ⟨rfl, .inr ⟨finish, hwish, hcut, Task.done.inj hrest, rfl⟩⟩
  · rintro ⟨answer, due, hdue, rfl, ⟨hheard, rfl, rfl⟩ | ⟨wish, hwish, hcut, rfl, rfl⟩⟩
    · exact .race hdue hheard (.refl _ _)
    · exact .cut hwish (heard _ hwish) hcut (.refl _ _)

/-- A refusal that was read is what polling ends with exactly when no wish to cancel comes by the
time the simulation is answered; otherwise the run ends as expired. In no case is there another
call. -/
theorem completes_refused_iff {outcome : Outcome} (heard : ∀ wish ∈ cancel, told < wish)
    (refused : ∃ rest, (signed.confirm polling signature).Reaches cancel start
      (before ++ [.refusal signature why asked told]) rest told) :
    (signed.confirm polling signature).Reaches cancel start
        (before ++ .refusal signature why asked told :: more) (.done outcome) finish ↔
      ∃ (answer : Except Error Simulation) (due : Nat), told ≤ due ∧
        more = [⟨.simulate signed.transaction, told, answer, due⟩] ∧
        ((∀ wish ∈ cancel, due < wish) ∧
            outcome = .failed signature (.ofAnswer why answer) ∧ finish = due ∨
          ∃ wish ∈ cancel, wish ≤ due ∧
            outcome = .expired signature .cancelled ∧ finish = wish) := by
  rw [← reaches_lookInto_iff heard]
  refine ⟨reaches_refused heard, fun run => ?_⟩
  obtain ⟨rest, hrefused⟩ := refused
  have hrest : rest = signed.lookInto signature why := by
    have hlook := reaches_refused heard hrefused
    cases hlook with
    | refl => rfl
    | spare hwish hnow _ => exact absurd (heard _ hwish) (Nat.not_lt_of_le hnow)
  subst hrest
  simpa using hrefused.trans run

/-- At one refusal, with the wish to cancel half a second later: a simulation that takes less leaves
the refusal standing, and one that takes longer loses it. -/
theorem completes_refused_accountNotFound :
    (blank.confirm {} (Octets.filled 64 0)).Reaches (some 2500) 0
        ([⟨.sleep 2000, 0, (), 2000⟩] ++
          .refusal (Octets.filled 64 0) (.plain .accountNotFound) 2000 2000 ::
          [⟨.simulate blank.transaction, 2000, (.ok {} : Except Error Simulation), 2499⟩])
        (.done (.failed (Octets.filled 64 0) ⟨.plain .accountNotFound, some {}, none⟩)) 2499 ∧
      (blank.confirm {} (Octets.filled 64 0)).Reaches (some 2500) 0
        ([⟨.sleep 2000, 0, (), 2000⟩] ++
          .refusal (Octets.filled 64 0) (.plain .accountNotFound) 2000 2000 ::
          [⟨.simulate blank.transaction, 2000, (.ok {} : Except Error Simulation), 3000⟩])
        (.done (.expired (Octets.filled 64 0) .cancelled)) 2500 := by
  have heard : ∀ wish ∈ some 2500, 2000 < wish := by simp
  have refused : ∃ rest, (blank.confirm {} (Octets.filled 64 0)).Reaches (some 2500) 0
      ([⟨.sleep 2000, 0, (), 2000⟩] ++
        [.refusal (Octets.filled 64 0) (.plain .accountNotFound) 2000 2000]) rest 2000 := by
    refine ⟨blank.lookInto (Octets.filled 64 0) (.plain .accountNotFound), ?_⟩
    change (blank.pollOn {} (Octets.filled 64 0) (49 + 1) 0 0).Reaches _ _ _ _ _
    rw [pollOn_succ]
    exact .race (by decide) (by simp) (.race (by decide) (by simp) (.refl _ _))
  constructor
  · exact (completes_refused_iff heard refused).mpr
      ⟨.ok {}, 2499, by decide, rfl, .inl ⟨by simp, rfl, rfl⟩⟩
  · exact (completes_refused_iff heard refused).mpr
      ⟨.ok {}, 3000, by decide, rfl, .inr ⟨2500, rfl, by decide, rfl, rfl⟩⟩

/-- A ledger that has refused the transaction and takes a second to simulate it. The user wishes to
cancel in the middle of that second. -/
def hastyLedger : ScriptedLedger where
  script :=
    { statuses := [⟨[], .ok (some (.refused (.plain .accountNotFound)))⟩]
      simulations := [⟨[1000], .ok {}⟩] }
  cancelAt := some 2500

/-- A refusal is lost: it was read at the instant 2000 and the transaction was simulated, but what
polling ends with half a second later says that there was no verdict. -/
theorem refusal_lost :
    (hastyLedger.play (blank.confirm {} (Octets.filled 64 0))).1 =
        .ok (.expired (Octets.filled 64 0) .cancelled) ∧
      (hastyLedger.play (blank.confirm {} (Octets.filled 64 0))).2.calls =
        [(2000, .simulate blank.transaction), (2000, .status (Octets.filled 64 0))] ∧
      (hastyLedger.play (blank.confirm {} (Octets.filled 64 0))).2.now = 2500 := by
  have hplay : hastyLedger.play (blank.confirm {} (Octets.filled 64 0)) =
      (.ok (.expired (Octets.filled 64 0) .cancelled),
        { hastyLedger with
          script := {}
          now := 2500
          calls := [(2000, .simulate blank.transaction),
            (2000, .status (Octets.filled 64 0))] }) := by
    change hastyLedger.play (blank.pollOn {} (Octets.filled 64 0) (49 + 1) 0 0) = _
    rw [pollOn_succ]
    refine (ScriptedLedger.play_race_heard (by decide)).trans ?_
    refine (ScriptedLedger.play_race_heard (by decide)).trans ?_
    exact (ScriptedLedger.play_race_cut rfl (by decide) (by decide)).trans rfl
  rw [hplay]
  exact ⟨rfl, rfl, rfl⟩

end SignedBatch

end LendingClient
