import LendingClient.Proofs.Submission.Ending

/-!
# How often the status is asked for

Polling that nobody cancels asks for the status once in each poll, and never about anything but its
own signature. When it gives up because the polls are used up, it has asked as often as it was
allowed to; when it gives up because the block hash is gone, it has asked at least once.
-/

namespace LendingClient

/-- The signature that an exchange asked the ledger about, if it did. -/
def Exchange.asked? : Exchange → Option Signature
  | ⟨.status signature, _, _, _⟩ => some signature
  | _ => none

/-- How polling gave up: after all of its polls, or after at least one of them. -/
def GaveUp (left polls : Nat) : ExpiryReason → Prop
  | .pollBudgetExhausted => polls = left
  | .blockhashExpired => 0 < polls ∧ polls ≤ left
  | .cancelled => False

/-- With one poll more to make and one more made, polling gives up as it did before. -/
theorem GaveUp.succ {left polls : Nat} {reason : ExpiryReason} (h : GaveUp left polls reason) :
    GaveUp (left + 1) (polls + 1) reason := by
  cases reason with
  | pollBudgetExhausted => exact congrArg (· + 1) h
  | blockhashExpired => exact ⟨Nat.succ_pos polls, Nat.succ_le_succ h.2⟩
  | cancelled => exact h

/-- Polling that gives up makes a poll exactly if it may make one. -/
theorem GaveUp.pos_iff {left polls : Nat} {reason : ExpiryReason} (h : GaveUp left polls reason) :
    0 < polls ↔ 0 < left := by
  cases reason with
  | pollBudgetExhausted =>
    have hall : polls = left := h
    rw [hall]
  | blockhashExpired => exact iff_of_true h.1 (Nat.lt_of_lt_of_le h.1 h.2)
  | cancelled => exact h.elim

namespace SignedBatch

variable {signed : SignedBatch} {polling : Polling} {signature other : Signature}
  {left number strikes start finish : Nat} {exchanges : List Exchange} {reason : ExpiryReason}

/-- Without a wish to cancel every call of polling is answered. -/
theorem ends_uncancelled {call : Call} {next : call.Answer → Task Outcome}
    {result : Except Abort Outcome}
    (run : (Task.race call (stopped signature) next).Ends none start exchanges result finish) :
    ∃ (answer : call.Answer) (due : Nat) (later : List Exchange),
      exchanges = ⟨call, start, answer, due⟩ :: later ∧
      (next answer).Ends none due later result finish := by
  rcases ends_raced run with ⟨answer, due, later, -, hexchanges, hlater⟩ | ⟨-, wish, hwish, -⟩
  · exact ⟨answer, due, later, hexchanges, hlater⟩
  · cases hwish

/-- A poll of a run that gives up asks for the status once, and the polls that are left do the
rest. -/
theorem asked_pollOn
    (run : (signed.pollOn polling signature left number strikes).Ends none start exchanges
      (.ok (.expired other reason)) finish) :
    ∃ polls, exchanges.filterMap Exchange.asked? = List.replicate polls signature ∧
      GaveUp left polls reason := by
  induction left generalizing number strikes start exchanges with
  | zero =>
    obtain ⟨rfl, hresult, -⟩ := Task.Ends.of_done run
    cases hresult
    exact ⟨0, rfl, rfl⟩
  | succ left ih =>
    rw [pollOn_succ] at run
    obtain ⟨_, woke, _, rfl, hstatus⟩ := ends_uncancelled run
    obtain ⟨status, told, later, rfl, hrest⟩ := ends_uncancelled hstatus
    have hcount {polls : Nat} {rest : List Exchange}
        (hrest : rest.filterMap Exchange.asked? = List.replicate polls signature) :
        (⟨.sleep polling.interval, start, (), woke⟩ :: ⟨.status signature, woke, status, told⟩ ::
          rest).filterMap Exchange.asked? = List.replicate (polls + 1) signature :=
      congrArg (signature :: ·) hrest
    rcases signed.afterStatus_cases polling signature left (number + 1) strikes status with
      ⟨-, hlanded⟩ | ⟨why, -, hrefused⟩ | ⟨-, hopen⟩
    · -- a transaction that took effect has not expired
      rw [hlanded] at hrest
      cases (Task.Ends.of_done hrest).2.1
    · -- nor has one that was refused
      rw [hrefused] at hrest
      obtain ⟨answer, due, _, rfl, hfailed⟩ := ends_uncancelled hrest
      cases (Task.Ends.of_done hfailed).2.1
    · rw [hopen] at hrest
      obtain ⟨answer, due, rest, rfl, hgoOn⟩ := ends_uncancelled hrest
      rcases signed.goOn_cases polling signature left (number + 1) strikes answer with
        ⟨-, -, hgone⟩ | ⟨strikes', hon, -⟩
      · rw [hgone] at hgoOn
        obtain ⟨rfl, hresult, -⟩ := Task.Ends.of_done hgoOn
        cases hresult
        exact ⟨1, hcount rfl, Nat.one_pos, Nat.succ_pos left⟩
      · rw [hon] at hgoOn
        obtain ⟨polls, hpolls, hgaveUp⟩ := ih hgoOn
        exact ⟨polls + 1, hcount hpolls, hgaveUp.succ⟩

/-- Polling for a transaction asks for its status as often as it may, or at least once. -/
theorem asked_confirm
    (run : (signed.confirm polling signature).Ends none start exchanges
      (.ok (.expired other reason)) finish) :
    ∃ polls, exchanges.filterMap Exchange.asked? = List.replicate polls signature ∧
      GaveUp polling.maxPolls polls reason :=
  asked_pollOn run

/-- If no poll is allowed then polling is over before it began. -/
theorem ends_confirm_zero {result : Except Abort Outcome} (hpolls : polling.maxPolls = 0)
    (run : (signed.confirm polling signature).Ends none start exchanges result finish) :
    exchanges = [] ∧ result = .ok (.expired signature .pollBudgetExhausted) := by
  unfold confirm at run
  rw [hpolls] at run
  obtain ⟨rfl, rfl, -⟩ := Task.Ends.of_done run
  exact ⟨rfl, rfl⟩

end SignedBatch

end LendingClient
