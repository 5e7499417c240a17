import LendingClient.Proofs.Amount.Percent
import LendingClient.Proofs.Operation.Payload

/-!
# The fees of an instruction

Fees travel as rates. Main statement: a fee text, the rate that the instruction carries for it and the
text that is shown for that rate all stand for one number, and nothing that is shown is read as
another rate.
-/

namespace LendingClient

/-- The rates in the body of an instruction are shown as numerals of the same value as the fees of
the operation, each in its own place. -/
def Operation.RatesShown (body : Bytes) : Operation → Prop
  | .setUp _ _ buyFee sellFee leverageFee => ∃ args,
    Layout.setUp.read body = .ok (args, []) ∧ Fee.ShownAs buyFee args.buyFee ∧
      Fee.ShownAs sellFee args.sellFee ∧ Fee.ShownAs leverageFee args.leverageFee
  | .update change => ∃ args,
    Layout.update.read body = .ok (args, []) ∧ Option.Rel Fee.ShownAs change.buyFee args.buyFee ∧
      Option.Rel Fee.ShownAs change.sellFee args.sellFee ∧
      Option.Rel Fee.ShownAs change.leverageFee args.leverageFee
  | _ => True

/-- The last instruction of a batch calls the program with rates that are shown with the values of the
operation's fees. -/
def Batch.ShowsRates (batch : Batch) (deployment : Deployment) (operation : Operation) : Prop :=
  ∃ call, batch.instructions.getLast? = some call ∧ call.program = deployment.program ∧
    call.data.take 8 = discriminator instructionSpace operation.kind.name ∧
    operation.RatesShown (call.data.drop 8)

/-- A rate that a text stands for is shown with its value. -/
private theorem Fee.Stands.shownAs {text : String} {rate : UInt64} (h : Fee.Stands text rate) :
    Fee.ShownAs text rate := by
  obtain ⟨numeral, hspelled, hrate⟩ := h
  exact Fee.shownAs_of_spelled hspelled hrate

variable {deployment : Deployment} {operation : Operation} {now : Int64}

/-- Fees that are read back from a body are shown from it. -/
theorem Operation.ratesShown_of_readFrom {accounts : Accounts} {body : Bytes}
    (h : operation.ReadFrom deployment accounts now body) : operation.RatesShown body := by
  have hrel {fee : Option String} {rate : Option UInt64} (hstands : Option.Rel Fee.Stands fee rate) :
      Option.Rel Fee.ShownAs fee rate := by
    cases hstands with
    | some hsome => exact .some hsome.shownAs
    | none => exact .none
  cases operation with
  | setUp receiver mint buyFee sellFee leverageFee =>
    obtain ⟨args, hread, -, hbuy, hsell, hleverage⟩ := h
    exact ⟨args, hread, hbuy.shownAs, hsell.shownAs, hleverage.shownAs⟩
  | update change =>
    obtain ⟨args, hread, hbuy, hsell, hleverage, -⟩ := h
    exact ⟨args, hread, hrel hbuy, hrel hsell, hrel hleverage⟩
  | start | buy | sell | borrow | leverage | borrowMore | repay | removeCollateral | closePosition
  | flashClosePosition | extendLoan | liquidate | stake | unstake => trivial

/-- A batch that carries an operation's input shows its rates. -/
private theorem Batch.Carries.showsRates {batch : Batch} {accounts : Accounts}
    (h : batch.Carries deployment accounts operation now) : batch.ShowsRates deployment operation := by
  obtain ⟨call, hlast, hprogram, htag, hread⟩ := h.request
  exact ⟨call, hlast, hprogram, htag, Operation.ratesShown_of_readFrom hread⟩

namespace Fee

/-- Rates survive being shown and read, and fees survive being stored. Every stored number is read
back from what is shown for it, and as a fee if it is at most one hundred percent. A text is read as
a fee exactly if it is decimal with at most two digits after the point and stands for at most one
hundred, and the rate is a hundred times what it stands for. So the rates that an operation's
instruction carries are shown as numerals of the same value as its fees. -/
theorem rates_survive (deployment : Deployment) (operation : Operation) (owner : Key) (now : Int64)
    (ledger : ScriptedLedger) :
    (∀ raw, Amount.parseFixed (percent raw) decimals = .ok raw) ∧
    (∀ field text, (∃ rate, parse field text = .ok rate) ↔ ∃ numeral : Numeral,
      numeral.Spelled text ∧ numeral.fraction.length ≤ 2 ∧ numeral.value ≤ 100) ∧
    (∀ field text rate, parse field text = .ok rate ↔ ∃ numeral : Numeral,
      numeral.Spelled text ∧ numeral.fraction.length ≤ 2 ∧ numeral.value ≤ 100 ∧
        (rate.toNat : ℚ) = 100 * numeral.value) ∧
    (∀ batch, (ledger.run (deployment.build operation owner now)).1 = .ok (.ok batch) →
      batch.ShowsRates deployment operation) ∧
    (∀ field raw, parse field (percent raw) = .ok raw ↔ raw.toNat ≤ 10000) := by
  refine ⟨parseFixed_percent, fun field text => exists_parse_eq_ok_iff,
    fun field text rate => parse_eq_ok_iff, ?_, ?_⟩
  · intro batch hbatch
    exact (Deployment.carries_of_valueOn (deployment.valueOn_build_of_play hbatch)).showsRates
  · intro field raw
    rw [parse_percent_eq_ok_iff, UInt64.le_iff_toNat_le]
    exact and_iff_left rfl

/-- On a ledger that holds nothing yet, the program is set up with rates that are shown with the
values of the fees. -/
theorem rates_survive_setUp :
    ∃ batch, (({ accounts := {} } : ScriptedLedger).run (Deployment.sample.build
        (.setUp (Octets.filled 32 4) (Octets.filled 32 3) " 9.75 " ".5" "100") (Octets.filled 32 7)
        1700000000)).1 = .ok (.ok batch) ∧
      batch.ShowsRates .sample
        (.setUp (Octets.filled 32 4) (Octets.filled 32 3) " 9.75 " ".5" "100") := by
  obtain ⟨batch, hbatch⟩ : ∃ batch, (({ accounts := {} } : ScriptedLedger).run
      (Deployment.sample.build (.setUp (Octets.filled 32 4) (Octets.filled 32 3) " 9.75 " ".5" "100")
        (Octets.filled 32 7) 1700000000)).1 = .ok (.ok batch) := exists_eq_ok_ok (by decide +kernel)
  exact ⟨batch, hbatch, (rates_survive _ _ _ _ _).2.2.2.1 batch hbatch⟩

end Fee

end LendingClient
