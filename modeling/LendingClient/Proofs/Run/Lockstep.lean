import LendingClient.Proofs.Run.Snapshot
import LendingClient.Proofs.Run.Wishes

/-!
# Tasks in step

Two tasks that make the same calls are answered alike by every ledger, since what a ledger answers
depends on nothing but the calls so far. So what holds of their values, whatever the answers, holds
of what any ledger makes of them. The relation is one of success: as soon as the first task has
failed, nothing is asked of the second.
-/

namespace LendingClient

variable {α β γ δ : Type} {R : α → β → Prop} {S : γ → δ → Prop}

/-- One task leads another: both make the same calls, and where the first comes to a value, the
second comes to a related one. -/
inductive Task.Leads (R : α → β → Prop) : Task (Except Error α) → Task (Except Error β) → Prop
  | value {value : α} {other : β} (h : R value other) :
    Leads R (.done (.ok value)) (.done (.ok other))
  | error (error : Error) (other : Task (Except Error β)) : Leads R (.done (.error error)) other
  | abort (why : Abort) (other : Task (Except Error β)) : Leads R (.abort why) other
  | ask {call : Call} {next : call.Answer → Task (Except Error α)}
    {otherNext : call.Answer → Task (Except Error β)}
    (h : ∀ answer, Leads R (next answer) (otherNext answer)) :
    Leads R (.ask call next) (.ask call otherNext)
  | race {call : Call} {cancelled : Task (Except Error α)}
    {otherCancelled : Task (Except Error β)} {next : call.Answer → Task (Except Error α)}
    {otherNext : call.Answer → Task (Except Error β)} (hcancelled : Leads R cancelled otherCancelled)
    (h : ∀ answer, Leads R (next answer) (otherNext answer)) :
    Leads R (.race call cancelled next) (.race call otherCancelled otherNext)

/-- Every task leads itself. -/
theorem Task.Leads.refl (task : Task (Except Error α)) : task.Leads Eq task := by
  induction task with
  | done result =>
    cases result with
    | ok value => exact .value rfl
    | error error => exact .error error _
  | abort why => exact .abort why _
  | ask call next ih => exact .ask ih
  | race call cancelled next ihCancelled ih => exact .race ihCancelled ih

/-- Tasks that go on after two in step are in step if they are for related values. -/
theorem Task.Leads.bind {task : Task (Except Error α)} {other : Task (Except Error β)}
    {f : α → Action γ} {g : β → Action δ} (h : task.Leads R other)
    (hnext : ∀ value result, R value result → (f value).run.Leads S (g result).run) :
    Leads S (task.bind (ExceptT.bindCont f)) (other.bind (ExceptT.bindCont g)) := by
  induction h with
  | value hvalue => exact hnext _ _ hvalue
  | error error other => exact .error error _
  | abort why other => exact .abort why _
  | ask _ ih => exact .ask ih
  | race _ _ ihCancelled ih => exact .race ihCancelled ih

/-- What a ledger makes of the first of two tasks in step, it makes of the second, up to how their
values are related. -/
theorem ScriptedLedger.play_of_leads {task : Task (Except Error α)}
    {other : Task (Except Error β)} {ledger later : ScriptedLedger} {value : α}
    (h : task.Leads R other) (hplay : ledger.play task = (.ok (.ok value), later)) :
    ∃ result, ledger.play other = (.ok (.ok result), later) ∧ R value result := by
  induction h generalizing ledger with
  | value hvalue =>
    cases hplay
    exact ⟨_, rfl, hvalue⟩
  | error error other => cases hplay
  | abort why other => cases hplay
  | ask _ ih => exact ih _ hplay
  | race _ _ ihCancelled ih =>
    rename_i call _ _ _ _ _ _
    cases hanswer : ledger.answerRacing call with
    | mk answer middle =>
      rw [play_race hanswer] at hplay ⊢
      cases answer with
      | none => exact ihCancelled hplay
      | some answer => exact ih answer hplay

namespace Action

/-- One action leads another: both make the same calls, and where the first comes to a value, the
second comes to a related one. -/
def Leads (R : α → β → Prop) (action : Action α) (other : Action β) : Prop :=
  action.run.Leads R other.run

namespace Leads

/-- An action leads itself. -/
theorem refl (action : Action α) : Leads Eq action action :=
  Task.Leads.refl action.run

/-- A value leads any value that is related to it. -/
theorem pure {value : α} {other : β} (h : R value other) :
    Leads R (pure value : Action α) (pure other : Action β) :=
  .value h

/-- An error leads anything. -/
theorem throw (error : Error) (other : Action β) : Leads R (throw error : Action α) other :=
  .error error _

/-- One action leads another if they are put together from parts that do. -/
theorem bind {action : Action α} {other : Action β} {f : α → Action γ} {g : β → Action δ}
    (h : Leads R action other)
    (hnext : ∀ value result, R value result → Leads S (f value) (g result)) :
    Leads S (action >>= f) (other >>= g) :=
  Task.Leads.bind h hnext

/-- Actions that are in step for every value are in step after one and the same action. -/
theorem bind_same {action : Action α} {f : α → Action γ} {g : α → Action δ}
    (hnext : ∀ value, Leads S (f value) (g value)) : Leads S (action >>= f) (action >>= g) :=
  (refl action).bind fun value _ hsame => hsame ▸ hnext value

/-- What was worked out leads something else that was worked out and has a related value whenever it
has one. -/
theorem plan {worked : Plan α} {other : Plan β}
    (h : ∀ value, worked.value? = some value →
      ∃ result, other.value? = some result ∧ R value result) :
    Leads R (liftM worked : Action α) (liftM other : Action β) := by
  change (Task.ofAbort worked.run).Leads R (Task.ofAbort other.run)
  unfold Plan.value? at h
  cases hworked : worked.run with
  | error why => exact .abort why _
  | ok ending =>
    cases ending with
    | error error => exact .error error _
    | ok value =>
      rw [hworked] at h
      obtain ⟨result, hresult, hrelated⟩ := h value rfl
      cases hother : other.run with
      | error why =>
        rw [hother] at hresult
        cases hresult
      | ok otherEnding =>
        rw [hother] at hresult
        cases otherEnding with
        | error error => cases hresult
        | ok found =>
          cases hresult
          exact .value hrelated

/-- What was worked out may be replaced by something else that has its value whenever it has one. -/
theorem plan_bind_same {worked other : Plan α} {f : α → Action γ}
    (h : ∀ value, worked.value? = some value → other.value? = some value) :
    Leads Eq ((liftM worked : Action α) >>= f) ((liftM other : Action α) >>= f) := by
  have hworked : Leads Eq (liftM worked : Action α) (liftM other : Action α) :=
    .plan fun value hvalue => ⟨value, h value hvalue, rfl⟩
  refine hworked.bind ?_
  rintro value _ rfl
  exact .refl _

/-- After one and the same check, actions in step are in step. They need to be so only if the check
passes. -/
theorem checked {value : Except InputFault α} {f : α → Action γ} {g : α → Action δ}
    (hnext : ∀ result, value = .ok result → Leads S (f result) (g result)) :
    Leads S ((liftM (Plan.ofInput value) : Action α) >>= f)
      ((liftM (Plan.ofInput value) : Action α) >>= g) := by
  cases value with
  | error fault => exact .error (.input fault) _
  | ok result => exact hnext result rfl

end Leads

end Action

end LendingClient
