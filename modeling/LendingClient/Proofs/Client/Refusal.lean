import LendingClient.Client.Basic
import LendingClient.Proofs.Operation.Input

/-!
# Faulty operations never reach the ledger

The input of an operation is checked before anything is read, and a caller who names themselves as
the one who sent them is found out by the keys alone. So a faulty operation ends with a fault of its
input and without a call, however the ledger would answer; and the client does not try it again.
-/

namespace LendingClient

/-- An operation is refused by its input alone, or names the caller as the one who sent them. -/
def Operation.Faulty (operation : Operation) (owner : Key) : Prop :=
  operation.validate ≠ .ok () ∨ ∃ amount, operation = .buy amount (some owner)

/-- An input fault is all that a faulty operation is built to, whatever the time, and nothing is
asked for it. -/
theorem Deployment.exists_run_build {operation : Operation} {owner : Key}
    (deployment : Deployment) (hfaulty : operation.Faulty owner) :
    ∃ fault, ∀ now, (deployment.build operation owner now).run =
      .done (.error (.input fault)) := by
  cases hvalid : operation.validate with
  | error fault =>
    refine ⟨fault, fun now => ?_⟩
    unfold Deployment.build
    rw [hvalid]
    rfl
  | ok =>
    rcases hfaulty with hinvalid | ⟨amount, rfl⟩
    · exact absurd hvalid hinvalid
    · refine ⟨.selfReferral, fun now => ?_⟩
      unfold Deployment.build
      rw [hvalid]
      unfold Deployment.buyWithReferral
      dsimp only
      rw [if_pos rfl]
      rfl

namespace Client

variable {client : Client} {operation : Operation} {owner : Key} {signer : Signer}

/-- When building is refused without a call, an attempt reads the clock and fails. -/
theorem sendAnew_of_refused {fault : InputFault}
    (hbuild : ∀ now, (client.deployment.build operation owner now).run =
      .done (.error (.input fault))) :
    client.sendAnew operation owner signer =
      .ask .clock fun _ => .done (.failed (.input fault) none) := by
  have hhold : (client.hold operation owner signer).run =
      .ask .clock fun _ => .done (.error (.input fault)) := by
    have hprepare : (client.prepare operation owner).run =
        .ask .clock fun _ => .done (.error (.input fault)) :=
      congrArg (Task.ask .clock) (funext hbuild)
    unfold hold
    rw [ExceptT.run_bind, hprepare]
    rfl
  unfold sendAnew
  rw [hhold]
  rfl

/-- A fault of the input is no reason for another attempt. -/
theorem send_of_refused {fault : InputFault} (retries : Nat)
    (hsend : client.sendAnew operation owner signer =
      .ask .clock fun _ => .done (.failed (.input fault) none)) :
    client.send operation owner signer retries none =
      .ask .clock fun _ => .done (.error (.input fault)) := by
  -- Only an error of the ledger is tried again, so the number of retries does not matter.
  unfold send attempt
  rw [hsend]
  rfl

/-- Carrying out comes to the same fault, with no call but for the clock. -/
theorem run_execute_of_refused {fault : InputFault} (hkey : signer.key = .ok owner)
    (hbuild : ∀ now, (client.deployment.build operation owner now).run =
      .done (.error (.input fault))) :
    (client.execute operation signer).run =
      .ask .clock fun _ => .done (.error (.input fault)) := by
  have hsend : client.send operation owner signer client.retries none =
      .ask .clock fun _ => .done (.error (.input fault)) :=
    send_of_refused client.retries (sendAnew_of_refused hbuild)
  unfold execute
  rw [hkey]
  change (ExceptT.mk (client.send operation owner signer client.retries none) >>= _).run = _
  rw [ExceptT.run_bind, ExceptT.run_mk, hsend]
  rfl

/-- The input of an operation is found good exactly if it is as the documentation says. For an
operation with any other input, and for a buyer who names themselves as the one who sent them, both
building and carrying out end with a fault of the input, and the ledger is asked for nothing:
building makes no call, and carrying out only reads the clock. -/
theorem refuses_faulty (client : Client) (operation : Operation) (owner : Key) :
    (operation.validate = .ok () ↔ operation.Documented) ∧
    (operation.Faulty owner → ∃ fault,
      (∀ now, (client.deployment.build operation owner now).run =
        .done (.error (.input fault))) ∧
      ∀ signer : Signer, signer.key = .ok owner → (client.execute operation signer).run =
        .ask .clock fun _ => .done (.error (.input fault))) := by
  refine ⟨operation.validate_ok_iff, fun hfaulty => ?_⟩
  obtain ⟨fault, hbuild⟩ := client.deployment.exists_run_build hfaulty
  exact ⟨fault, hbuild, fun signer hkey => run_execute_of_refused hkey hbuild⟩

/-- A buyer who names themselves is refused whatever the ledger holds, though the amount is good. -/
theorem refuses_faulty_selfReferral :
    (Operation.buy "1.5" (some (Octets.filled 32 7))).Faulty (Octets.filled 32 7) ∧
    ∃ fault, ∀ signer : Signer, signer.key = .ok (Octets.filled 32 7) →
      (Client.execute ⟨⟨Octets.filled 32 8, .usual, none⟩, {}, 2⟩
        (.buy "1.5" (some (Octets.filled 32 7))) signer).run =
          .ask .clock fun _ => .done (.error (.input fault)) := by
  have hfaulty : (Operation.buy "1.5" (some (Octets.filled 32 7))).Faulty (Octets.filled 32 7) :=
    .inr ⟨"1.5", rfl⟩
  obtain ⟨fault, -, hexecute⟩ := (refuses_faulty ⟨⟨Octets.filled 32 8, .usual, none⟩, {}, 2⟩
    (.buy "1.5" (some (Octets.filled 32 7))) (Octets.filled 32 7)).2 hfaulty
  exact ⟨hfaulty, fault, hexecute⟩

end Client

end LendingClient
