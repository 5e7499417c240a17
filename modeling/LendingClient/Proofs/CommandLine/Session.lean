import LendingClient.CommandLine.Run
import LendingClient.Proofs.Run.Wishes

/-!
# How commands end

What a command does with the client is what the client does by itself, with its errors as the
command's faults. The status with which the program ends tells a command that broke off from any
other.
-/

namespace LendingClient

/-- As part of a command, an action asks what it asks by itself. -/
theorem Session.play_ofAction {α : Type} {ledger : ScriptedLedger} (action : Action α) :
    ledger.play (Session.ofAction action).run =
      ((ledger.play action.run).1.map (·.mapError .client), (ledger.play action.run).2) :=
  ScriptedLedger.play_bind_done action.run (·.mapError CommandFault.client)

/-- The status tells whether a command broke off. -/
theorem Exit.status_eq_brokenOff_iff {result : Except Abort (Except CommandFault String)} :
    (Exit.ofResult result).status = Exit.brokenOff ↔ ∃ why, result = .error why := by
  match result with
  | .ok (.ok output) => exact ⟨nofun, nofun⟩
  | .ok (.error fault) => exact ⟨nofun, nofun⟩
  | .error why => exact ⟨fun _ => ⟨why, rfl⟩, fun _ => rfl⟩

end LendingClient
