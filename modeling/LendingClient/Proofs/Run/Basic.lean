import LendingClient.Ledger.Task

/-!
# Runs of tasks

A task leaves open what the world outside answers, and when. A run is told by its exchanges: each
call with the instant at which it was made, its answer, and the instant at which the answer is due.
The caller may wish to cancel at one instant; from then on nothing that was raced against that wish
is heard. `Task.Reaches` says where a task stands after some exchanges. It holds for every world
outside that answers at all: one that follows a script, a node, or one that means harm.
-/

namespace LendingClient

/-- A call that was made, and the answer to it. -/
structure Exchange where
  call : Call
  /-- When the call was made. -/
  asked : Nat
  /-- The answer, which is not heard if the wish to cancel comes by the time it is due. -/
  answer : call.Answer
  /-- When the answer is due. -/
  due : Nat

namespace Task

variable {α β : Type}

/-- What is left of a task after some exchanges, and how late it is then. `cancel` is the instant of
the caller's wish to cancel, if there is one. -/
inductive Reaches (cancel : Option Nat) : Task α → Nat → List Exchange → Task α → Nat → Prop
  /-- Nothing has happened yet. -/
  | refl (task : Task α) (now : Nat) : Reaches cancel task now [] task now
  /-- A call was answered. -/
  | ask {call : Call} {next : call.Answer → Task α} {now due finish : Nat} {answer : call.Answer}
      {exchanges : List Exchange} {rest : Task α} (hdue : now ≤ due)
      (later : Reaches cancel (next answer) due exchanges rest finish) :
      Reaches cancel (.ask call next) now (⟨call, now, answer, due⟩ :: exchanges) rest finish
  /-- A call was answered before the wish to cancel. -/
  | race {call : Call} {cancelled : Task α} {next : call.Answer → Task α} {now due finish : Nat}
      {answer : call.Answer} {exchanges : List Exchange} {rest : Task α} (hdue : now ≤ due)
      (heard : ∀ wish ∈ cancel, due < wish)
      (later : Reaches cancel (next answer) due exchanges rest finish) :
      Reaches cancel (.race call cancelled next) now (⟨call, now, answer, due⟩ :: exchanges) rest
        finish
  /-- A call was made, and the wish to cancel came by the time its answer was due. -/
  | cut {call : Call} {cancelled : Task α} {next : call.Answer → Task α}
      {now due finish wish : Nat} {answer : call.Answer} {exchanges : List Exchange} {rest : Task α}
      (hwish : wish ∈ cancel) (hnow : now < wish) (hdue : wish ≤ due)
      (later : Reaches cancel cancelled wish exchanges rest finish) :
      Reaches cancel (.race call cancelled next) now (⟨call, now, answer, due⟩ :: exchanges) rest
        finish
  /-- The wish to cancel was there before a call was made. -/
  | spare {call : Call} {cancelled : Task α} {next : call.Answer → Task α}
      {now finish wish : Nat} {exchanges : List Exchange} {rest : Task α}
      (hwish : wish ∈ cancel) (hnow : wish ≤ now)
      (later : Reaches cancel cancelled now exchanges rest finish) :
      Reaches cancel (.race call cancelled next) now exchanges rest finish

/-- Every call that a task can make, whatever it is answered, is an allowed one. -/
def Only (allowed : Call → Prop) : Task α → Prop
  | .done _ | .abort _ => True
  | .ask call next => allowed call ∧ ∀ answer, (next answer).Only allowed
  | .race call cancelled next =>
    allowed call ∧ cancelled.Only allowed ∧ ∀ answer, (next answer).Only allowed

variable {cancel : Option Nat} {start middle finish : Nat} {exchanges : List Exchange}

/-- A task that is over has no more exchanges. -/
theorem Reaches.of_done {value : α} {rest : Task α}
    (run : (Task.done value).Reaches cancel start exchanges rest finish) :
    exchanges = [] ∧ rest = .done value ∧ finish = start := by
  cases run
  exact ⟨rfl, rfl, rfl⟩

/-- A task that broke off has no more exchanges. -/
theorem Reaches.of_abort {why : Abort} {rest : Task α}
    (run : (Task.abort why).Reaches cancel start exchanges rest finish) :
    exchanges = [] ∧ rest = .abort why ∧ finish = start := by
  cases run
  exact ⟨rfl, rfl, rfl⟩

/-- Runs are put together end to end. -/
theorem Reaches.trans {task inner rest : Task α} {later : List Exchange}
    (first : task.Reaches cancel start exchanges inner middle)
    (second : inner.Reaches cancel middle later rest finish) :
    task.Reaches cancel start (exchanges ++ later) rest finish := by
  induction first with
  | refl => exact second
  | ask hdue _ ih => exact .ask hdue (ih second)
  | race hdue heard _ ih => exact .race hdue heard (ih second)
  | cut hwish hnow hdue _ ih => exact .cut hwish hnow hdue (ih second)
  | spare hwish hnow _ ih => exact .spare hwish hnow (ih second)

/-- A task that is not over is not over when something follows it. -/
theorem bind_ne_done {task : Task α} (htask : ∀ value, task ≠ .done value) (f : α → Task β)
    (value : β) : task.bind f ≠ .done value := by
  cases task with
  | done inner => exact absurd rfl (htask inner)
  | abort | ask | race => simp [bind]

/-- A run of one task after another is still in the first one, or it is a run of the first one to
its end and then a run of the second. -/
theorem Reaches.of_bind {task : Task α} {f : α → Task β} {rest : Task β}
    (run : (task.bind f).Reaches cancel start exchanges rest finish) :
    (∃ inner, task.Reaches cancel start exchanges inner finish ∧ (∀ value, inner ≠ .done value) ∧
      rest = inner.bind f) ∨
    ∃ value before after middle, exchanges = before ++ after ∧
      task.Reaches cancel start before (.done value) middle ∧
      (f value).Reaches cancel middle after rest finish := by
  induction task generalizing start exchanges with
  | done value => exact .inr ⟨value, [], exchanges, start, rfl, .refl _ _, run⟩
  | abort why =>
    obtain ⟨rfl, rfl, rfl⟩ := Reaches.of_abort run
    exact .inl ⟨.abort why, .refl _ _, by simp, rfl⟩
  | ask call next ih =>
    change (Task.ask call fun answer => (next answer).bind f).Reaches _ _ _ _ _ at run
    cases run with
    | refl => exact .inl ⟨.ask call next, .refl _ _, by simp, rfl⟩
    | ask hdue later =>
      rcases ih _ later with
        ⟨inner, hinner, hrest⟩ | ⟨value, before, after, middle, rfl, hfirst, hsecond⟩
      · exact .inl ⟨inner, .ask hdue hinner, hrest⟩
      · exact .inr ⟨value, _ :: before, after, middle, rfl, .ask hdue hfirst, hsecond⟩
  | race call cancelled next ihCancelled ih =>
    change (Task.race call (cancelled.bind f) fun answer => (next answer).bind f).Reaches
      _ _ _ _ _ at run
    cases run with
    | refl => exact .inl ⟨.race call cancelled next, .refl _ _, by simp, rfl⟩
    | race hdue heard later =>
      rcases ih _ later with
        ⟨inner, hinner, hrest⟩ | ⟨value, before, after, middle, rfl, hfirst, hsecond⟩
      · exact .inl ⟨inner, .race hdue heard hinner, hrest⟩
      · exact .inr ⟨value, _ :: before, after, middle, rfl, .race hdue heard hfirst, hsecond⟩
    | cut hwish hnow hdue later =>
      rcases ihCancelled later with
        ⟨inner, hinner, hrest⟩ | ⟨value, before, after, middle, rfl, hfirst, hsecond⟩
      · exact .inl ⟨inner, .cut hwish hnow hdue hinner, hrest⟩
      · exact .inr ⟨value, _ :: before, after, middle, rfl, .cut hwish hnow hdue hfirst, hsecond⟩
    | spare hwish hnow later =>
      rcases ihCancelled later with
        ⟨inner, hinner, hrest⟩ | ⟨value, before, after, middle, rfl, hfirst, hsecond⟩
      · exact .inl ⟨inner, .spare hwish hnow hinner, hrest⟩
      · exact .inr ⟨value, before, after, middle, rfl, .spare hwish hnow hfirst, hsecond⟩

/-- One task after another makes only calls that both may make. -/
theorem Only.bind {allowed : Call → Prop} {task : Task α} {f : α → Task β}
    (htask : task.Only allowed) (hf : ∀ value, (f value).Only allowed) :
    (task.bind f).Only allowed := by
  induction task with
  | done value => exact hf value
  | abort => trivial
  | ask call next ih => exact ⟨htask.1, fun answer => ih answer (htask.2 answer)⟩
  | race call cancelled next ihCancelled ih =>
    exact ⟨htask.1, ihCancelled htask.2.1, fun answer => ih answer (htask.2.2 answer)⟩

/-- A task that makes only some calls makes only calls that are allowed if those are. -/
theorem Only.mono {allowed permitted : Call → Prop} {task : Task α} (htask : task.Only allowed)
    (himp : ∀ call, allowed call → permitted call) : task.Only permitted := by
  induction task with
  | done => trivial
  | abort => trivial
  | ask call next ih => exact ⟨himp _ htask.1, fun answer => ih answer (htask.2 answer)⟩
  | race call cancelled next ihCancelled ih =>
    exact ⟨himp _ htask.1, ihCancelled htask.2.1, fun answer => ih answer (htask.2.2 answer)⟩

/-- The exchanges of a run have only calls that the task may make. -/
theorem Only.of_mem {allowed : Call → Prop} {task rest : Task α} (htask : task.Only allowed)
    (run : task.Reaches cancel start exchanges rest finish) :
    ∀ exchange ∈ exchanges, allowed exchange.call := by
  induction run with
  | refl => simp
  | ask _ _ ih => exact List.forall_mem_cons.mpr ⟨htask.1, ih (htask.2 _)⟩
  | race _ _ _ ih => exact List.forall_mem_cons.mpr ⟨htask.1, ih (htask.2.2 _)⟩
  | cut _ _ _ _ ih => exact List.forall_mem_cons.mpr ⟨htask.1, ih htask.2.1⟩
  | spare _ _ _ ih => exact ih htask.2.1

end Task

end LendingClient
