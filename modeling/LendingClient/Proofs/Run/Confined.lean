import LendingClient.Proofs.Run.Action
import LendingClient.Proofs.Run.Complete

/-!
# Confined actions

What has to be known of the many small actions that an operation is made of: which calls they make,
that they never race one, what they end with, and where their errors come from. An error is one that
the client finds out itself, or else the answer to a call, passed on as it was.
-/

namespace LendingClient

/-- The error that an answer is, if it is one. -/
def Call.error? : (call : Call) → call.Answer → Option Error
  | .account _, .error error | .accounts _, .error error | .blockhash, .error error
  | .send _, .error error | .status _, .error error | .validity _, .error error
  | .simulate _, .error error => some error
  | _, _ => none

/-- The calls that look at accounts and do nothing else. -/
def Call.Looks : Call → Prop
  | .account _ | .accounts _ => True
  | _ => False

/-- The error that a call was answered with, if it was. -/
def Exchange.error? (exchange : Exchange) : Option Error :=
  exchange.call.error? exchange.answer

/-- An error that the client finds out itself, and not from the ledger. -/
def Error.IsOwn : Error → Prop
  | .input _ | .timestamp _ | .notFound .. | .decode .. | .sign _ => True
  | .ledger _ | .failed .. | .expired _ | .settings _ => False

namespace Action

variable {α β : Type} {cancel : Option Nat} {start finish : Nat} {exchanges : List Exchange}
  {allowed : Call → Prop}

/-- What was worked out ends at once. -/
theorem ends_plan {plan : Plan α} {result : Except Abort (Except Error α)}
    (run : (liftM plan : Action α).run.Ends cancel start exchanges result finish) :
    exchanges = [] ∧ result = plan.run ∧ finish = start :=
  Task.Ends.of_ofAbort run

/-- A task ends as it does, also as an action. -/
theorem ends_lift {task : Task α} {result : Except Abort (Except Error α)}
    (run : (ExceptT.lift task : Action α).run.Ends cancel start exchanges result finish) :
    ∃ inner, task.Ends cancel start exchanges inner finish ∧ result = inner.map .ok := by
  rcases Task.Ends.of_bind (f := fun value => .done (Except.ok value)) run with
    ⟨why, hwhy, rfl⟩ | ⟨value, before, after, middle, rfl, hvalue, hafter⟩
  · exact ⟨.error why, hwhy, rfl⟩
  · obtain ⟨rfl, rfl, rfl⟩ := Task.Ends.of_done hafter
    rw [List.append_nil]
    exact ⟨.ok value, hvalue, rfl⟩

/-- A complete run of one action after another stopped in the first one, with an error or with
nothing, or is a complete run of the first one to a value and then one of the second. -/
theorem ends_bind {action : Action α} {f : α → Action β} {result : Except Abort (Except Error β)}
    (run : (action >>= f).run.Ends cancel start exchanges result finish) :
    (∃ stop : Except Abort Error,
      action.run.Ends cancel start exchanges (stop.map .error) finish ∧
        result = stop.map .error) ∨
    ∃ value before after middle, exchanges = before ++ after ∧
      action.run.Ends cancel start before (.ok (.ok value)) middle ∧
      (f value).run.Ends cancel middle after result finish := by
  rcases Task.Ends.of_bind run with
    ⟨why, hwhy, rfl⟩ | ⟨inner, before, after, middle, rfl, hinner, hafter⟩
  · exact .inl ⟨.error why, hwhy, rfl⟩
  · cases inner with
    | ok value => exact .inr ⟨value, before, after, middle, rfl, hinner, hafter⟩
    | error error =>
      obtain ⟨rfl, rfl, rfl⟩ := Task.Ends.of_done hafter
      rw [List.append_nil]
      exact .inl ⟨.ok error, hinner, rfl⟩

/-- A complete run of one action after another to a value is one of the first to a value, and then
one of the second. -/
theorem ends_bind_ok {action : Action α} {f : α → Action β} {value : β}
    (run : (action >>= f).run.Ends cancel start exchanges (.ok (.ok value)) finish) :
    ∃ inner before after middle, exchanges = before ++ after ∧
      action.run.Ends cancel start before (.ok (.ok inner)) middle ∧
      (f inner).run.Ends cancel middle after (.ok (.ok value)) finish := by
  rcases ends_bind run with ⟨stop, -, hstop⟩ | hboth
  · cases stop <;> cases hstop
  · exact hboth

/-- To work something out makes no call. -/
theorem asks_plan (plan : Plan α) : (liftM plan : Action α).run.Asks allowed :=
  Task.asks_ofAbort plan.run

/-- A task makes the same calls as part of an action. -/
theorem asks_lift {task : Task α} (htask : task.Asks allowed) :
    (ExceptT.lift task : Action α).run.Asks allowed :=
  Task.Asks.bind (f := fun value => .done (Except.ok value)) htask fun _ _ => trivial

/-- One action after another makes allowed calls if both of them do. -/
theorem asks_bind {action : Action α} {f : α → Action β} (haction : action.run.Asks allowed)
    (hf : ∀ value, (f value).run.Asks allowed) : (action >>= f).run.Asks allowed := by
  refine Task.Asks.bind haction fun result _ => ?_
  cases result with
  | ok value => exact hf value
  | error => trivial

/-- An action is confined: it makes only allowed calls and races none, a value that it ends with has
a property, and an error that it ends with is the client's own or was the answer to a call. -/
structure Confined (allowed : Call → Prop) (property : α → Prop) (action : Action α) : Prop where
  asks : action.run.Asks allowed
  value : ∀ {cancel start exchanges value finish},
    action.run.Ends cancel start exchanges (.ok (.ok value)) finish → property value
  error : ∀ {cancel start exchanges error finish},
    action.run.Ends cancel start exchanges (.ok (.error error)) finish →
      error.IsOwn ∨ ∃ exchange ∈ exchanges, exchange.error? = some error

namespace Confined

variable {permitted : Call → Prop} {first property : α → Prop} {second : β → Prop}

/-- A value with the property is confined. -/
theorem pure {value : α} (hvalue : property value) :
    Confined allowed property (pure value : Action α) where
  asks := trivial
  value run := by
    obtain ⟨-, hresult, -⟩ := Task.Ends.of_done run
    cases hresult
    exact hvalue
  error run := by
    obtain ⟨-, hresult, -⟩ := Task.Ends.of_done run
    cases hresult

/-- To fail with one of the client's own errors is confined. -/
theorem throw {error : Error} (herror : error.IsOwn) :
    Confined allowed property (throw error : Action α) where
  asks := trivial
  value run := by
    obtain ⟨-, hresult, -⟩ := Task.Ends.of_done run
    cases hresult
  error run := by
    obtain ⟨-, hresult, -⟩ := Task.Ends.of_done run
    cases hresult
    exact .inl herror

/-- What was worked out is confined if its value has the property and its error is the client's
own. -/
theorem plan {plan : Plan α} (hvalue : ∀ value, plan.run = .ok (.ok value) → property value)
    (herror : ∀ error, plan.run = .ok (.error error) → error.IsOwn) :
    Confined allowed property (liftM plan : Action α) where
  asks := Task.asks_ofAbort plan.run
  value run := hvalue _ (ends_plan run).2.1.symm
  error run := .inl (herror _ (ends_plan run).2.1.symm)

/-- One confined action after another is confined. Of the second that is needed only for values that
the first one can end with. -/
theorem bind_of_value {action : Action α} {f : α → Action β}
    (haction : Confined allowed first action)
    (hf : ∀ value, first value → Confined allowed second (f value)) :
    Confined allowed second (action >>= f) where
  asks := haction.asks.bind fun result hresult => by
    cases result with
    | ok value =>
      obtain ⟨cancel, start, exchanges, finish, run⟩ := hresult
      exact (hf value (haction.value run)).asks
    | error => trivial
  value run := by
    obtain ⟨value, _, _, _, rfl, hvalue, hafter⟩ := ends_bind_ok run
    exact (hf value (haction.value hvalue)).value hafter
  error run := by
    rcases ends_bind run with
      ⟨stop, hstopped, hstop⟩ | ⟨value, before, after, _, rfl, hvalue, hafter⟩
    · cases stop <;> cases hstop
      exact haction.error hstopped
    · rcases (hf value (haction.value hvalue)).error hafter with hown | ⟨exchange, hmem, herror⟩
      · exact .inl hown
      · exact .inr ⟨exchange, List.mem_append_right _ hmem, herror⟩

/-- One confined action after another is confined. -/
theorem bind {action : Action α} {f : α → Action β} (haction : Confined allowed first action)
    (hf : ∀ value, Confined allowed second (f value)) :
    Confined allowed second (action >>= f) :=
  haction.bind_of_value fun value _ => hf value

/-- A confined action stays so when more is allowed. -/
theorem mono {action : Action α} (haction : Confined allowed property action)
    (himp : ∀ call, allowed call → permitted call) : Confined permitted property action :=
  ⟨haction.asks.mono himp, haction.value, haction.error⟩

/-- A confined action has any property that follows. -/
theorem imp {weaker : α → Prop} {action : Action α} (haction : Confined allowed property action)
    (himp : ∀ value, property value → weaker value) : Confined allowed weaker action :=
  ⟨haction.asks, fun run => himp _ (haction.value run), haction.error⟩

/-- An action that is one call, with its answer converted, passes an error on. -/
theorem of_call {action : Action α} {call : Call} {convert : call.Answer → Except Error α}
    (haction : action.run = .ask call fun answer => .done (convert answer)) (hcall : allowed call)
    (herror : ∀ answer error, convert answer = .error error → call.error? answer = some error) :
    Confined allowed (fun _ => True) action where
  asks := by
    rw [haction]
    exact ⟨hcall, fun _ => trivial⟩
  value _ := trivial
  error {cancel start exchanges error finish} run := by
    rw [haction] at run
    obtain ⟨answer, due, later, -, rfl, hlater⟩ := Task.Ends.of_ask run
    obtain ⟨rfl, hresult, -⟩ := Task.Ends.of_done hlater
    refine .inr ⟨_, List.mem_singleton_self _, herror answer error ?_⟩
    exact (Except.ok.inj hresult).symm

/-- To ask for an account is confined to that call. -/
theorem account {address : Key} (hcall : allowed (.account address)) :
    Confined allowed (fun _ => True) (Action.account address) :=
  of_call rfl hcall fun _ _ h => by cases h; rfl

/-- To ask for several accounts at once is confined to that call. -/
theorem accounts {queries : List Query} (hcall : allowed (.accounts queries)) :
    Confined allowed (fun _ => True) (Action.accounts queries) :=
  of_call rfl hcall fun _ _ h => by cases h; rfl

/-- To ask for a block hash is confined to that call. -/
theorem blockhash (hcall : allowed .blockhash) :
    Confined allowed (fun _ => True) Action.blockhash :=
  of_call rfl hcall fun _ _ h => by cases h; rfl

/-- To ask for the time is confined to that call. -/
theorem clock (hcall : allowed .clock) : Confined allowed (fun _ => True) Action.clock :=
  of_call rfl hcall fun _ _ h => nomatch h

/-- To make a key is confined to that call. -/
theorem freshKey (hcall : allowed .freshKey) : Confined allowed (fun _ => True) Action.freshKey :=
  of_call rfl hcall fun _ _ h => nomatch h

end Confined

end Action

end LendingClient
