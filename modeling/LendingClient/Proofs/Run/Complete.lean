import LendingClient.Proofs.Run.Basic

/-!
# Complete runs

A complete run of a task has come to its end: to a value, or to none because the run broke off.
Every run against a ledger that follows a script is one. A complete run of one task after another is
a complete run of the first, and then, if there is a value, a complete run of the second.
-/

namespace LendingClient

namespace Task

variable {α β : Type} {cancel : Option Nat} {start finish : Nat} {exchanges : List Exchange}

/-- A task comes to its end by some exchanges: to a value, or to none because it broke off. -/
def Ends (cancel : Option Nat) (task : Task α) (start : Nat) (exchanges : List Exchange)
    (result : Except Abort α) (finish : Nat) : Prop :=
  task.Reaches cancel start exchanges (ofAbort result) finish

private theorem ofAbort_injective : Function.Injective (ofAbort (α := α)) := by
  intro first second h
  cases first <;> cases second <;> cases h <;> rfl

/-- A task that is over ends at once. -/
theorem Ends.of_done {value : α} {result : Except Abort α}
    (run : (Task.done value).Ends cancel start exchanges result finish) :
    exchanges = [] ∧ result = .ok value ∧ finish = start := by
  obtain ⟨hnil, hrest, hfinish⟩ := Reaches.of_done run
  exact ⟨hnil, ofAbort_injective hrest, hfinish⟩

/-- A task that broke off ends at once. -/
theorem Ends.of_abort {why : Abort} {result : Except Abort α}
    (run : (Task.abort why).Ends cancel start exchanges result finish) :
    exchanges = [] ∧ result = .error why ∧ finish = start := by
  obtain ⟨hnil, hrest, hfinish⟩ := Reaches.of_abort run
  exact ⟨hnil, ofAbort_injective hrest, hfinish⟩

/-- What was worked out ends at once. -/
theorem Ends.of_ofAbort {value result : Except Abort α}
    (run : (ofAbort value).Ends cancel start exchanges result finish) :
    exchanges = [] ∧ result = value ∧ finish = start := by
  cases value with
  | error why => exact Ends.of_abort run
  | ok value => exact Ends.of_done run

/-- A task that makes a call goes on from the answer. -/
theorem Ends.of_ask {call : Call} {next : call.Answer → Task α} {result : Except Abort α}
    (run : (Task.ask call next).Ends cancel start exchanges result finish) :
    ∃ (answer : call.Answer) (due : Nat) (later : List Exchange), start ≤ due ∧
      exchanges = ⟨call, start, answer, due⟩ :: later ∧
      (next answer).Ends cancel due later result finish := by
  unfold Ends at run
  generalize hrest : ofAbort result = rest at run
  cases run with
  | refl => cases result <;> cases hrest
  | @ask _ _ _ due _ answer later _ hdue run =>
    subst hrest
    exact ⟨answer, due, later, hdue, rfl, run⟩

/-- A task that races a call goes on from the answer if it is heard. If the wish to cancel comes by
the time it is due, or was there before, the task goes on as one that is cancelled. -/
theorem Ends.of_race {call : Call} {cancelled : Task α} {next : call.Answer → Task α}
    {result : Except Abort α}
    (run : (Task.race call cancelled next).Ends cancel start exchanges result finish) :
    (∃ (answer : call.Answer) (due : Nat) (later : List Exchange), start ≤ due ∧
      exchanges = ⟨call, start, answer, due⟩ :: later ∧
      ((∀ wish ∈ cancel, due < wish) ∧ (next answer).Ends cancel due later result finish ∨
        ∃ wish ∈ cancel, start < wish ∧ wish ≤ due ∧
          cancelled.Ends cancel wish later result finish)) ∨
    ∃ wish ∈ cancel, wish ≤ start ∧ cancelled.Ends cancel start exchanges result finish := by
  unfold Ends at run
  generalize hrest : ofAbort result = rest at run
  cases run with
  | refl => cases result <;> cases hrest
  | @race _ _ _ _ due _ answer later _ hdue heard run =>
    subst hrest
    exact .inl ⟨answer, due, later, hdue, rfl, .inl ⟨heard, run⟩⟩
  | @cut _ _ _ _ due _ wish answer later _ hwish hnow hdue run =>
    subst hrest
    exact .inl ⟨answer, due, later, by omega, rfl, .inr ⟨wish, hwish, hnow, hdue, run⟩⟩
  | @spare _ _ _ _ _ wish _ _ hwish hnow run =>
    subst hrest
    exact .inr ⟨wish, hwish, hnow, run⟩

/-- A complete run of one task after another broke off in the first one, or is a complete run of the
first one and then one of the second. -/
theorem Ends.of_bind {task : Task α} {f : α → Task β} {result : Except Abort β}
    (run : (task.bind f).Ends cancel start exchanges result finish) :
    (∃ why, task.Ends cancel start exchanges (.error why) finish ∧ result = .error why) ∨
    ∃ value before after middle, exchanges = before ++ after ∧
      task.Ends cancel start before (.ok value) middle ∧
      (f value).Ends cancel middle after result finish := by
  rcases Reaches.of_bind run with ⟨inner, hinner, hne, hrest⟩ | hboth
  · left
    cases result with
    | ok value => exact absurd hrest.symm (bind_ne_done hne f value)
    | error why =>
      refine ⟨why, ?_, rfl⟩
      cases inner with
      | done value => exact absurd rfl (hne value)
      | abort other =>
        cases hrest
        exact hinner
      | ask | race => cases hrest
  · exact .inr hboth

/-- Every call that a task can make, whatever it is answered, is an allowed one, and none of them is
raced against the wish to cancel. -/
def Asks (allowed : Call → Prop) : Task α → Prop
  | .done _ | .abort _ => True
  | .ask call next => allowed call ∧ ∀ answer, (next answer).Asks allowed
  | .race .. => False

variable {allowed permitted : Call → Prop} {task : Task α}

/-- One task after another makes only calls that both may make. Of the second that is needed only
for the values that the first one can end with. -/
theorem Asks.bind {f : α → Task β} (htask : task.Asks allowed)
    (hf : ∀ value, (∃ cancel start exchanges finish,
      task.Ends cancel start exchanges (.ok value) finish) → (f value).Asks allowed) :
    (task.bind f).Asks allowed := by
  induction task with
  | done value => exact hf value ⟨none, 0, [], 0, .refl _ _⟩
  | abort => trivial
  | ask call next ih =>
    refine ⟨htask.1, fun answer => ih answer (htask.2 answer) fun value hvalue => ?_⟩
    obtain ⟨cancel, start, exchanges, finish, run⟩ := hvalue
    exact hf value ⟨cancel, start, _, finish, .ask (Nat.le_refl start) run⟩
  | race => exact htask.elim

/-- A task that makes only some calls makes only calls that are allowed if those are. -/
theorem Asks.mono (htask : task.Asks allowed) (himp : ∀ call, allowed call → permitted call) :
    task.Asks permitted := by
  induction task with
  | done => trivial
  | abort => trivial
  | ask call next ih => exact ⟨himp _ htask.1, fun answer => ih answer (htask.2 answer)⟩
  | race => exact htask.elim

/-- A task that asks allowed calls and races none makes only allowed calls. -/
theorem Asks.only (htask : task.Asks allowed) : task.Only allowed := by
  induction task with
  | done => trivial
  | abort => trivial
  | ask call next ih => exact ⟨htask.1, fun answer => ih answer (htask.2 answer)⟩
  | race => exact htask.elim

/-- To end at once or to break off makes no call. -/
theorem asks_ofAbort (value : Except Abort α) : (ofAbort value).Asks allowed := by
  cases value <;> trivial

end Task

end LendingClient
