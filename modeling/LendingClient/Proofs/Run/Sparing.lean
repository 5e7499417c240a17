import LendingClient.Proofs.Run.Steady

/-!
# Actions that do with fewer reads

Of two actions with one and the same value on a snapshot, one may read less than the other. A ledger
that fails to read an account may keep the other from its value then. Where it does not, the one that
reads less comes to the value as well: up to the read that it spares it was answered alike, and
behind it nothing is read that could fail.
-/

namespace LendingClient

open ScriptedLedger

variable {α β : Type} {snapshot : Snapshot}

namespace Action

/-- An action comes to the value that it has on a snapshot without fail, whatever the ledger's script
says. -/
structure Certain (snapshot : Snapshot) (action : Action α) : Prop where
  succeeds : ∀ ledger : ScriptedLedger, ledger.snapshot = snapshot → ∀ value,
    (ledger.play action.run).1 = .ok (.ok value) ↔ valueOn snapshot action = some value

namespace Certain

/-- A value is certain. -/
theorem pure (value : α) : Certain snapshot (pure value : Action α) := by
  refine ⟨fun ledger _ other => ?_⟩
  rw [valueOn_pure_iff]
  constructor
  · intro h
    cases h
    rfl
  · rintro rfl
    rfl

/-- What follows something that was worked out is certain if it is for the value. -/
theorem plan_bind {plan : Plan α} {f : α → Action β}
    (hf : ∀ value, plan.value? = some value → Certain snapshot (f value)) :
    Certain snapshot ((liftM plan : Action α) >>= f) := by
  refine ⟨fun ledger hledger result => ?_⟩
  rw [valueOn_bind, valueOn_plan]
  rcases ledger.play_plan_bind plan f with ⟨value, hvalue, hplay⟩ | ⟨hnone, stop, -, hplay⟩
  · rw [hplay, hvalue]
    exact (hf value hvalue).succeeds ledger hledger result
  · rw [hplay, hnone]
    cases stop <;> exact ⟨nofun, nofun⟩

/-- Making a key does not fail, and the next key is part of the snapshot. -/
theorem freshKey_bind (f : KeyPair → α) :
    Certain snapshot (Action.freshKey >>= fun pair => Pure.pure (f pair)) := by
  refine ⟨?_⟩
  rintro ledger rfl value
  have hplay : (ledger.play (Action.freshKey >>= fun pair => Pure.pure (f pair)).run).1 =
      .ok (.ok (f ledger.snapshot.fresh)) := rfl
  rw [hplay, valueOn_bind, valueOn_freshKey, Option.bind_some, valueOn_pure, Except.ok.injEq,
    Except.ok.injEq, Option.some.injEq]

end Certain

/-- Another action has the value of an action on a snapshot, and comes to it on every ledger on which
the action does. -/
structure Spares (snapshot : Snapshot) (action other : Action α) : Prop where
  value : valueOn snapshot other = valueOn snapshot action
  ends : ∀ ledger : ScriptedLedger, ledger.snapshot = snapshot → ∀ value,
    (ledger.play action.run).1 = .ok (.ok value) → (ledger.play other.run).1 = .ok (.ok value)

namespace Spares

/-- An action has its own value, and comes to it wherever it does. -/
theorem refl (action : Action α) : Spares snapshot action action :=
  ⟨rfl, fun _ _ _ h => h⟩

/-- After one and the same steady action, an action may be replaced by one that reads less. -/
theorem bind_same {state : Action β} {f g : β → Action α} (hsteady : Steady snapshot state)
    (h : ∀ value, valueOn snapshot state = some value → Spares snapshot (f value) (g value)) :
    Spares snapshot (state >>= f) (state >>= g) := by
  refine ⟨?_, fun ledger hledger result hresult => ?_⟩
  · rw [valueOn_bind, valueOn_bind]
    cases hstate : valueOn snapshot state with
    | none => rfl
    | some value => exact (h value hstate).value
  · obtain ⟨ending, middle, hplay, htruth, hmoved⟩ := hsteady.ends ledger hledger
    cases ending with
    | error error =>
      rw [play_action_error hplay] at hresult
      cases hresult
    | ok value =>
      rw [play_action_ok hplay] at hresult ⊢
      exact (h value htruth.eq_some).ends middle (hmoved.snapshot.trans hledger) result hresult

/-- A steady action whose value is known may be left out, if nothing fails after it. -/
theorem of_value {state : Action β} {tail : β → Action α} {value : β}
    (hsteady : Steady snapshot state) (hvalue : valueOn snapshot state = some value)
    (htail : Certain snapshot (tail value)) : Spares snapshot (state >>= tail) (tail value) := by
  refine ⟨?_, fun ledger hledger result hresult => ?_⟩
  · rw [valueOn_bind, hvalue, Option.bind_some]
  · rcases hsteady.play_bind (f := tail) hledger with
      ⟨error, later, hplay, -⟩ | ⟨found, middle, hfound, hmoved, hplay⟩
    · rw [hplay] at hresult
      cases hresult
    · cases hfound.symm.trans hvalue
      rw [hplay, htail.succeeds middle (hmoved.snapshot.trans hledger)] at hresult
      exact (htail.succeeds ledger hledger result).mpr hresult

/-- After a steady action without a value nothing follows, so anything without a value will do
instead. -/
theorem of_none {state : Action β} {tail : β → Action α} {other : Action α}
    (hsteady : Steady snapshot state) (hnone : valueOn snapshot state = none)
    (hother : valueOn snapshot other = none) : Spares snapshot (state >>= tail) other := by
  refine ⟨?_, fun ledger hledger result hresult => ?_⟩
  · rw [valueOn_bind, hnone, hother, Option.bind_none]
  · rcases hsteady.play_bind (f := tail) hledger with
      ⟨error, later, hplay, -⟩ | ⟨found, middle, hfound, -⟩
    · rw [hplay] at hresult
      cases hresult
    · cases hfound.symm.trans hnone

end Spares

end Action

end LendingClient
