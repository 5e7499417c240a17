import LendingClient.Ledger.Accounts
import LendingClient.Ledger.Read
import LendingClient.Proofs.Except

/-!
# The value of an action on a snapshot

While an operation is built, nothing changes: the accounts hold what they hold, and the next fresh
pair of keys is what it is. Such a `Snapshot` answers every call that building makes, so the value of
an action can be computed from it, if the action comes to one (`Action.valueOn`).
-/

namespace LendingClient

/-- What an action finds while it is carried out: the accounts, and the pair of keys that nobody
has. -/
structure Snapshot where
  accounts : Accounts
  fresh : KeyPair

/-- The data of an account that is asked for, if it will do. -/
def Accounts.ask? (accounts : Accounts) (query : Query) : Option (Option Bytes) :=
  let data := accounts.get? query.address
  (query.accept data).toOption.map fun _ => data

/-- The answer to a call that only looks at a snapshot. There is none to reads that are asked
together if the data of one of them will not do. -/
def Snapshot.answer? (snapshot : Snapshot) : (call : Call) → Option call.Answer
  | .account address => some (.ok (snapshot.accounts.get? address))
  | .accounts queries => (queries.mapM snapshot.accounts.ask?).map .ok
  | .freshKey => some snapshot.fresh
  | _ => none

variable {α β γ : Type} {snapshot : Snapshot}

/-- The value that a task comes to on a snapshot, if it comes to one. -/
def Task.valueOn (snapshot : Snapshot) : Task (Except Error α) → Option α
  | .done result => result.toOption
  | .abort _ => none
  | .ask call next => (snapshot.answer? call).bind fun answer => (next answer).valueOn snapshot
  | .race .. => none

/-- A task that stops at an error comes to a value when it does, and what follows does. -/
theorem Task.valueOn_bind {task : Task (Except Error α)}
    {next : Except Error α → Task (Except Error β)}
    (herror : ∀ error, next (.error error) = .done (.error error)) :
    (task.bind next).valueOn snapshot =
      (task.valueOn snapshot).bind fun value => (next (.ok value)).valueOn snapshot := by
  induction task with
  | done result =>
    cases result with
    | ok value => rfl
    | error error =>
      change (next (.error error)).valueOn snapshot = none
      rw [herror]
      rfl
  | abort => rfl
  | ask call after ih =>
    change ((snapshot.answer? call).bind fun answer => ((after answer).bind next).valueOn snapshot) =
      ((snapshot.answer? call).bind fun answer => (after answer).valueOn snapshot).bind _
    rw [Option.bind_assoc]
    exact congrArg _ (funext ih)
  | race => rfl

/-- The value that was worked out, if it was. -/
def Plan.value? (plan : Plan α) : Option α :=
  match plan.run with
  | .ok (.ok value) => some value
  | _ => none

/-- A plan never breaks off. -/
def Plan.Whole (plan : Plan α) : Prop :=
  ∀ why, plan.run ≠ .error why

namespace Plan

/-- A plan after another one is worked out from what the first one comes to. -/
theorem run_bind (plan : Plan α) (f : α → Plan β) :
    (plan >>= f).run = plan.run >>= fun result => ExceptT.bindCont f result :=
  rfl

/-- A plan after another one has a value if both plans do. -/
@[simp]
theorem value?_bind (plan : Plan α) (f : α → Plan β) :
    (plan >>= f).value? = plan.value?.bind fun value => (f value).value? := by
  unfold value?
  rw [run_bind]
  cases plan.run with
  | error why => rfl
  | ok result =>
    cases result with
    | ok value => rfl
    | error error => rfl

/-- A result has the value of its success. -/
@[simp]
theorem value?_ofExcept (value : Except Error α) : (ofExcept value).value? = value.toOption := by
  cases value <;> rfl

/-- A result has a value if it is a success. -/
theorem value?_ofExcept_iff {checked : Except Error α} {value : α} :
    (ofExcept checked).value? = some value ↔ checked = .ok value := by
  rw [value?_ofExcept, toOption_eq_some_iff]

/-- A check of the input has a value if it passes. -/
theorem value?_ofInput_iff {checked : Except InputFault α} {value : α} :
    (ofInput checked).value? = some value ↔ checked = .ok value := by
  rw [ofInput, value?_ofExcept_iff, mapError_eq_ok_iff]

/-- One plan after another comes to a value when both do. -/
theorem value?_bind_iff {plan : Plan α} {f : α → Plan β} {value : β} :
    (plan >>= f).value? = some value ↔
      ∃ inner, plan.value? = some inner ∧ (f inner).value? = some value := by
  rw [value?_bind, Option.bind_eq_some_iff]

/-- A value does not break off. -/
theorem whole_pure (value : α) : (pure value : Plan α).Whole :=
  fun _ h => nomatch h

/-- An error does not break off. -/
theorem whole_throw (error : Error) : (throw error : Plan α).Whole :=
  fun _ h => nomatch h

/-- A result does not break off. -/
theorem whole_ofExcept (value : Except Error α) : (ofExcept value).Whole :=
  fun _ h => nomatch h

/-- A check of the input does not break off. -/
theorem whole_ofInput (value : Except InputFault α) : (ofInput value).Whole :=
  whole_ofExcept _

/-- Of two plans the one that is chosen does not break off if it does not when it is chosen. -/
theorem whole_ite {condition : Prop} [Decidable condition] {plan other : Plan α}
    (hplan : condition → plan.Whole) (hother : ¬ condition → other.Whole) :
    (if condition then plan else other).Whole := by
  split
  · exact hplan ‹_›
  · exact hother ‹_›

/-- One plan after another is whole if both are. Of the second that is needed only for the value of
the first one. -/
theorem whole_bind {plan : Plan α} {f : α → Plan β} (hplan : plan.Whole)
    (hf : ∀ value, plan.value? = some value → (f value).Whole) : (plan >>= f).Whole := by
  intro why hwhy
  rw [run_bind] at hwhy
  unfold value? at hf
  cases hresult : plan.run with
  | error other => exact hplan other hresult
  | ok result =>
    rw [hresult] at hwhy hf
    cases result with
    | ok value => exact hf value rfl why hwhy
    | error error => cases hwhy

end Plan

namespace Action

/-- The value that an action comes to on a snapshot, if it comes to one. -/
def valueOn (snapshot : Snapshot) (action : Action α) : Option α :=
  action.run.valueOn snapshot

/-- A value is its own on every snapshot. -/
@[simp]
theorem valueOn_pure (value : α) : valueOn snapshot (pure value : Action α) = some value :=
  rfl

/-- What follows an action starts from the value that the action has. -/
@[simp]
theorem valueOn_bind (action : Action α) (f : α → Action β) :
    valueOn snapshot (action >>= f) =
      (valueOn snapshot action).bind fun value => valueOn snapshot (f value) :=
  Task.valueOn_bind fun _ => rfl

/-- One action after another comes to a value when both do. -/
theorem valueOn_bind_iff {action : Action α} {f : α → Action β} {value : β} :
    valueOn snapshot (action >>= f) = some value ↔
      ∃ inner, valueOn snapshot action = some inner ∧ valueOn snapshot (f inner) = some value := by
  rw [valueOn_bind, Option.bind_eq_some_iff]

/-- An action comes to some value on a snapshot. -/
def Comes (snapshot : Snapshot) (action : Action α) : Prop :=
  ∃ value, valueOn snapshot action = some value

/-- One action after another comes to something if the second does for the value of the first. -/
theorem comes_bind_iff {action : Action α} {f : α → Action β} :
    Comes snapshot (action >>= f) ↔
      ∃ inner, valueOn snapshot action = some inner ∧ Comes snapshot (f inner) := by
  unfold Comes
  simp only [valueOn_bind_iff]
  constructor
  · rintro ⟨value, inner, hinner, hvalue⟩
    exact ⟨inner, hinner, value, hvalue⟩
  · rintro ⟨inner, hinner, value, hvalue⟩
    exact ⟨value, inner, hinner, hvalue⟩

/-- A value comes to something. -/
theorem comes_pure (value : α) : Comes snapshot (pure value : Action α) :=
  ⟨value, rfl⟩

/-- A check that fails leaves no value. -/
theorem valueOn_guard_iff {condition : Prop} [Decidable condition] {error : Error}
    {f : PUnit → Action α} {value : α} :
    valueOn snapshot (if condition then throw error >>= f else f ⟨⟩) = some value ↔
      ¬ condition ∧ valueOn snapshot (f ⟨⟩) = some value := by
  by_cases h : condition
  · rw [if_pos h, valueOn_bind_iff]
    constructor
    · rintro ⟨_, hthrow, -⟩
      cases hthrow
    · rintro ⟨hnot, -⟩
      exact absurd h hnot
  · rw [if_neg h]
    exact (and_iff_right h).symm

/-- An action behind a condition that must not hold comes to something if it does not hold. -/
theorem comes_guard_iff {condition : Prop} [Decidable condition] {error : Error}
    {f : PUnit → Action α} :
    Comes snapshot (if condition then throw error >>= f else f ⟨⟩) ↔
      ¬ condition ∧ Comes snapshot (f ⟨⟩) := by
  unfold Comes
  simp only [valueOn_guard_iff, exists_and_left]

/-- A value has no other value. -/
theorem valueOn_pure_iff {value result : α} :
    valueOn snapshot (pure value : Action α) = some result ↔ result = value := by
  rw [valueOn_pure, Option.some.injEq, eq_comm]

/-- A plan has its value on every snapshot. -/
@[simp]
theorem valueOn_plan (plan : Plan α) : valueOn snapshot (liftM plan : Action α) = plan.value? := by
  change (Task.ofAbort plan.run).valueOn snapshot = _
  unfold Plan.value?
  cases hrun : plan.run with
  | error why => rfl
  | ok result =>
    cases result with
    | ok value => rfl
    | error error => rfl

/-- A check passes with what was checked. -/
theorem valueOn_ofInput_iff {checked : Except InputFault α} {value : α} :
    valueOn snapshot (liftM (Plan.ofInput checked) : Action α) = some value ↔
      checked = .ok value := by
  rw [valueOn_plan, Plan.value?_ofInput_iff]

/-- To ask for an account has the data of the account. -/
@[simp]
theorem valueOn_account (address : Key) :
    valueOn snapshot (Action.account address) = some (snapshot.accounts.get? address) :=
  rfl

/-- To ask for several accounts at once has their data if all of it will do. -/
@[simp]
theorem valueOn_accounts (queries : List Query) :
    valueOn snapshot (Action.accounts queries) = queries.mapM snapshot.accounts.ask? := by
  change ((queries.mapM snapshot.accounts.ask?).map Except.ok).bind Except.toOption = _
  cases queries.mapM snapshot.accounts.ask? <;> rfl

/-- To make a key has the next one. -/
@[simp]
theorem valueOn_freshKey : valueOn snapshot Action.freshKey = some snapshot.fresh :=
  rfl

end Action

namespace Read

/-- What a read finds in the accounts, if the data will do. -/
def value? (read : Read α) (accounts : Accounts) : Option α :=
  (read.interpret (accounts.get? read.address)).toOption

variable (read : Read α) (a : Read α) (b : Read β) (c : Read γ)

/-- A read has the value that its account holds. -/
@[simp]
theorem valueOn_perform :
    Action.valueOn snapshot read.perform = read.value? snapshot.accounts := by
  simp [perform, value?]

private theorem ask?_query (accounts : Accounts) :
    accounts.ask? read.query =
      (read.value? accounts).map fun _ => accounts.get? read.address := by
  change ((read.interpret (accounts.get? read.address)).map fun _ => ()).toOption.map _ = _
  unfold value?
  cases read.interpret (accounts.get? read.address) with
  | ok value => rfl
  | error error => rfl

/-- Two accounts that are asked for at once are both found, or nothing is. -/
@[simp]
theorem valueOn_both :
    Action.valueOn snapshot (both a b) =
      (a.value? snapshot.accounts).bind fun first =>
        (b.value? snapshot.accounts).map fun second => (first, second) := by
  simp only [both, Action.valueOn_bind, Action.valueOn_accounts, List.mapM_cons, List.mapM_nil,
    ask?_query]
  cases ha : a.value? snapshot.accounts with
  | none => rfl
  | some first =>
    cases hb : b.value? snapshot.accounts with
    | none => rfl
    | some second =>
      unfold value? at ha hb
      simp [ha, hb]

/-- Three accounts that are asked for at once are all found, or nothing is. -/
@[simp]
theorem valueOn_allThree :
    Action.valueOn snapshot (allThree a b c) =
      (a.value? snapshot.accounts).bind fun first =>
        (b.value? snapshot.accounts).bind fun second =>
          (c.value? snapshot.accounts).map fun third => (first, second, third) := by
  simp only [allThree, Action.valueOn_bind, Action.valueOn_accounts, List.mapM_cons, List.mapM_nil,
    ask?_query]
  cases ha : a.value? snapshot.accounts with
  | none => rfl
  | some first =>
    cases hb : b.value? snapshot.accounts with
    | none => rfl
    | some second =>
      cases hc : c.value? snapshot.accounts with
      | none => rfl
      | some third =>
        unfold value? at ha hb hc
        simp [ha, hb, hc]

end Read

end LendingClient
