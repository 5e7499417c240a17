import LendingClient.Proofs.Run.Complete
import LendingClient.Proofs.Submission.Poll

/-!
# How polling ends

A verdict ends polling with the poll that reads it: at once if the transaction took effect, and with
one simulation if it was refused. Polling that ends without a verdict has heard none. An answer that
comes when the caller wishes to cancel already, or later, is not heard.
-/

namespace LendingClient

/-- The verdict that a status was read with, if there is one. -/
def Exchange.verdict? : Exchange → Option Verdict
  | ⟨.status _, _, .ok verdict, _⟩ => verdict
  | _ => none

/-- A status was read, and there is a verdict. -/
def Exchange.read (signature : Signature) (verdict : Verdict) (asked told : Nat) : Exchange :=
  ⟨.status signature, asked, (.ok (some verdict) : Except Error (Option Verdict)), told⟩

namespace SignedBatch

/-- How polling ends, by its exchanges. -/
inductive Polled (signed : SignedBatch) (signature : Signature) (cancel : Option Nat) :
    List Exchange → Except Abort Outcome → Prop
  /-- The last status says that the transaction took effect. -/
  | landed (before : List Exchange) {asked told polls : Nat}
      (openBefore : ∀ exchange ∈ before, exchange.verdict? = none)
      (heard : ∀ wish ∈ cancel, told < wish) :
      Polled signed signature cancel (before ++ [.read signature .landed asked told])
        (.ok (.confirmed signature polls))
  /-- The last status says that the transaction was refused, which is looked into. -/
  | refused (before : List Exchange) {asked told due : Nat} {why : Rejection}
      {answer : Except Error Simulation}
      (openBefore : ∀ exchange ∈ before, exchange.verdict? = none)
      (heard : ∀ wish ∈ cancel, due < wish) :
      Polled signed signature cancel
        (before ++ [.read signature (.refused why) asked told,
          ⟨.simulate signed.transaction, told, answer, due⟩])
        (.ok (.failed signature (.ofAnswer why answer)))
  /-- A verdict, if there was one, came too late. -/
  | expired {exchanges : List Exchange} {reason : ExpiryReason}
      (missed : ∀ exchange ∈ exchanges, ∀ verdict ∈ exchange.verdict?,
        ∃ wish ∈ cancel, verdict = .landed → wish ≤ exchange.due) :
      Polled signed signature cancel exchanges (.ok (.expired signature reason))

variable {signed : SignedBatch} {polling : Polling} {signature : Signature} {cancel : Option Nat}
  {left number strikes start finish : Nat} {exchanges : List Exchange}
  {result : Except Abort Outcome}

/-- An exchange without a verdict in front changes nothing. -/
theorem Polled.cons {exchange : Exchange} (hopen : exchange.verdict? = none)
    (polled : Polled signed signature cancel exchanges result) :
    Polled signed signature cancel (exchange :: exchanges) result := by
  cases polled with
  | landed before openBefore heard =>
    exact .landed (exchange :: _) (List.forall_mem_cons.mpr ⟨hopen, openBefore⟩) heard
  | refused before openBefore heard =>
    exact .refused (exchange :: _) (List.forall_mem_cons.mpr ⟨hopen, openBefore⟩) heard
  | expired missed =>
    refine .expired (List.forall_mem_cons.mpr ⟨fun verdict hverdict => ?_, missed⟩)
    rw [hopen] at hverdict
    cases hverdict

/-- A call of polling is answered in time, or polling is over because the caller wishes to cancel.
-/
theorem ends_raced {call : Call} {next : call.Answer → Task Outcome}
    (run : (Task.race call (stopped signature) next).Ends cancel start exchanges result finish) :
    (∃ (answer : call.Answer) (due : Nat) (later : List Exchange),
      (∀ wish ∈ cancel, due < wish) ∧ exchanges = ⟨call, start, answer, due⟩ :: later ∧
      (next answer).Ends cancel due later result finish) ∨
    result = .ok (.expired signature .cancelled) ∧
      ∃ wish ∈ cancel, ∀ exchange ∈ exchanges, wish ≤ exchange.due := by
  rcases Task.Ends.of_race run with
    ⟨answer, due, later, -, rfl, ⟨heard, hlater⟩ | ⟨wish, hwish, -, hdue, hstopped⟩⟩ |
    ⟨wish, hwish, -, hstopped⟩
  · exact .inl ⟨answer, due, later, heard, rfl, hlater⟩
  · obtain ⟨rfl, rfl, -⟩ := Task.Ends.of_done hstopped
    exact .inr ⟨rfl, wish, hwish, List.forall_mem_singleton.mpr hdue⟩
  · obtain ⟨rfl, rfl, -⟩ := Task.Ends.of_done hstopped
    exact .inr ⟨rfl, wish, hwish, by simp⟩

/-- When polling is over because the caller wishes to cancel, what was answered came too late. -/
theorem polled_of_late (hresult : result = .ok (.expired signature .cancelled))
    (late : ∃ wish ∈ cancel, ∀ exchange ∈ exchanges, wish ≤ exchange.due) :
    Polled signed signature cancel exchanges result := by
  obtain ⟨wish, hwish, hlate⟩ := late
  subst hresult
  exact .expired fun exchange hmem verdict _ => ⟨wish, hwish, fun _ => hlate exchange hmem⟩

private theorem polled_of_expired {reason : ExpiryReason}
    (run : (Task.done (.expired signature reason)).Ends cancel start exchanges result finish) :
    Polled signed signature cancel exchanges result := by
  obtain ⟨rfl, rfl, -⟩ := Task.Ends.of_done run
  exact .expired (by simp)

/-- Looking into a refusal ends with the refusal if the simulation is answered in time. -/
theorem polled_lookInto {why : Rejection} {asked : Nat}
    (run : (signed.lookInto signature why).Ends cancel start exchanges result finish) :
    Polled signed signature cancel (.read signature (.refused why) asked start :: exchanges)
      result := by
  rcases ends_raced run with
    ⟨answer, due, later, heard, rfl, hlater⟩ | ⟨hresult, wish, hwish, hlate⟩
  · obtain ⟨rfl, rfl, -⟩ := Task.Ends.of_done hlater
    exact .refused [] (by simp) heard
  · subst hresult
    refine .expired (List.forall_mem_cons.mpr ⟨fun verdict hverdict => ⟨wish, hwish, ?_⟩, ?_⟩)
    · cases hverdict
      exact nofun
    · exact fun exchange hmem verdict _ => ⟨wish, hwish, fun _ => hlate exchange hmem⟩

/-- Polling ends in one of these ways, and never breaks off. -/
theorem polled_pollOn
    (run : (signed.pollOn polling signature left number strikes).Ends cancel start exchanges result
      finish) : Polled signed signature cancel exchanges result := by
  induction left generalizing number strikes start exchanges with
  | zero => exact polled_of_expired run
  | succ left ih =>
    rw [pollOn_succ] at run
    rcases ends_raced run with ⟨-, woke, later, -, rfl, hstatus⟩ | ⟨hresult, hlate⟩
    · refine .cons rfl ?_
      rcases ends_raced hstatus with ⟨status, told, later, heard, rfl, hrest⟩ | ⟨hresult, hlate⟩
      · rcases signed.afterStatus_cases polling signature left (number + 1) strikes status with
          ⟨rfl, hlanded⟩ | ⟨why, rfl, hrefused⟩ | ⟨hnone, hopen⟩
        · rw [hlanded] at hrest
          obtain ⟨rfl, rfl, -⟩ := Task.Ends.of_done hrest
          exact .landed [] (by simp) heard
        · rw [hrefused] at hrest
          exact polled_lookInto hrest
        · rw [hopen] at hrest
          refine .cons ?_ ?_
          · cases status with
            | error => rfl
            | ok read =>
              cases read with
              | none => rfl
              | some verdict => exact absurd rfl (hnone verdict)
          · rcases ends_raced hrest with ⟨answer, due, later, -, rfl, hgoOn⟩ | ⟨hresult, hlate⟩
            · refine .cons rfl ?_
              rcases signed.goOn_cases polling signature left (number + 1) strikes answer with
                ⟨-, -, hgone⟩ | ⟨strikes', hon, -⟩
              · rw [hgone] at hgoOn
                exact polled_of_expired hgoOn
              · rw [hon] at hgoOn
                exact ih hgoOn
            · exact polled_of_late hresult hlate
      · exact polled_of_late hresult hlate
    · exact polled_of_late hresult hlate

/-- Polling until it is known what became of a transaction ends in one of these ways. -/
theorem polled_confirm
    (run : (signed.confirm polling signature).Ends cancel start exchanges result finish) :
    Polled signed signature cancel exchanges result :=
  polled_pollOn run

end SignedBatch

end LendingClient
