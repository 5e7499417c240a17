import LendingClient.Operation.Basic
import LendingClient.Proofs.Amount.Decimal

/-!
# Which input is good

The input of an operation is checked before anything is read. Here is said which inputs are good,
field by field and without the checks that find it out, and that these checks let exactly them
through.
-/

namespace LendingClient

/-- A text is an amount: it is decimal, and one of its digits is not zero. -/
def Amount.Positive (text : String) : Prop :=
  ∃ numeral : Numeral, numeral.Spelled text ∧ ∃ c ∈ numeral.whole ++ numeral.fraction, c ≠ '0'

/-- A text is a fee in percent: it is decimal, with at most two digits after the point, and stands
for at most one hundred. -/
def Fee.Percentage (text : String) : Prop :=
  ∃ numeral : Numeral, numeral.Spelled text ∧ numeral.fraction.length ≤ 2 ∧ numeral.value ≤ 100

namespace ConfigChange

/-- A change sets at least one field. -/
def Sets (change : ConfigChange) : Prop :=
  change.admin ≠ none ∨ change.feeReceiver ≠ none ∨ change.buyFee ≠ none ∨ change.sellFee ≠ none ∨
    change.leverageFee ≠ none ∨ change.quoteToken ≠ none ∨ change.stakeToken ≠ none ∨
    change.stakeVaultProgram ≠ none ∨ change.stakeEnabled ≠ none ∨ change.started ≠ none

/-- Every fee that a change names is one. -/
def FeesGood (change : ConfigChange) : Prop :=
  ∀ fee ∈ [change.buyFee, change.sellFee, change.leverageFee], ∀ text ∈ fee, Fee.Percentage text

variable {change : ConfigChange} {args : UpdateArguments}

private theorem isEmpty_eq_false_iff : change.isEmpty = false ↔ change.Sets := by
  obtain ⟨admin, feeReceiver, buyFee, sellFee, leverageFee, quoteToken, stakeToken,
    stakeVaultProgram, stakeEnabled, started⟩ := change
  simp only [isEmpty, Sets, decide_eq_false_iff_not, mk.injEq, not_and_or, ne_eq]

/-- The arguments of a change have its fees as rates, each in its own field, and all else as it
is. -/
theorem arguments_eq_ok_iff :
    change.arguments = .ok args ↔ ∃ sellRate, fee? .sell change.sellFee = .ok sellRate ∧
      ∃ buyRate, fee? .buy change.buyFee = .ok buyRate ∧
      ∃ leverageRate, fee? .leverage change.leverageFee = .ok leverageRate ∧
      args = { change with
        sellFee := sellRate
        buyFee := buyRate
        leverageFee := leverageRate } := by
  unfold arguments
  simp only [bind_eq_ok_iff, Pure.pure, Except.pure, Except.ok.injEq, eq_comm (b := args)]

/-- A fee that may be left out is read unless it is there and is none. -/
theorem exists_fee_iff {field : FeeField} {fee : Option String} :
    (∃ rate, fee? field fee = .ok rate) ↔ ∀ text ∈ fee, Fee.Percentage text := by
  cases fee with
  | none => simp [fee?]
  | some text =>
    have hrates : (∃ rate, fee? field (some text) = .ok rate) ↔
        ∃ rate, Fee.parse field text = .ok rate := by
      simp [fee?, map_eq_ok_iff]
    rw [hrates, Fee.exists_parse_eq_ok_iff]
    simp [Fee.Percentage]

/-- A change is valid if it sets something and its fees can be read. -/
theorem validate_eq_ok_iff :
    change.validate = .ok () ↔ change.Sets ∧ ∃ args, change.arguments = .ok args := by
  unfold validate
  rw [← isEmpty_eq_false_iff]
  cases change.isEmpty with
  | true => exact ⟨nofun, nofun⟩
  | false =>
    change (change.arguments >>= fun _ => .ok ()) = .ok () ↔ _
    rw [bind_eq_ok_iff]
    simp

private theorem exists_arguments_iff : (∃ args, change.arguments = .ok args) ↔ change.FeesGood := by
  simp only [arguments_eq_ok_iff, FeesGood, List.forall_mem_cons]
  -- The arguments read the fees in another order than that in which a change names them.
  constructor
  · rintro ⟨args, sellRate, hsell, buyRate, hbuy, leverageRate, hleverage, -⟩
    exact ⟨exists_fee_iff.mp ⟨_, hbuy⟩, exists_fee_iff.mp ⟨_, hsell⟩,
      exists_fee_iff.mp ⟨_, hleverage⟩, nofun⟩
  · rintro ⟨hbuy, hsell, hleverage, -⟩
    obtain ⟨buyRate, hbuy⟩ := exists_fee_iff.mpr hbuy
    obtain ⟨sellRate, hsell⟩ := exists_fee_iff.mpr hsell
    obtain ⟨leverageRate, hleverage⟩ := exists_fee_iff.mpr hleverage
    exact ⟨_, sellRate, hsell, buyRate, hbuy, leverageRate, hleverage, rfl⟩

end ConfigChange

namespace Operation

/-- A term is at least a day and at most a year. -/
def Term (days : UInt64) : Prop :=
  1 ≤ days.toNat ∧ days.toNat ≤ 365

/-- A text describes something: it is not empty, and has at most so many bytes. -/
def Describes (text : String) (limit : Nat) : Prop :=
  text ≠ "" ∧ text.utf8ByteSize ≤ limit

/-- The input of an operation is as the documentation says. -/
def Documented : Operation → Prop
  | .setUp _ _ buyFee sellFee leverageFee =>
    Fee.Percentage buyFee ∧ Fee.Percentage sellFee ∧ Fee.Percentage leverageFee
  | .update change => change.Sets ∧ change.FeesGood
  | .start amount name symbol uri =>
    Amount.Positive amount ∧ Describes name 32 ∧ Describes symbol 10 ∧ Describes uri 200
  | .borrow amount days | .leverage amount days => Amount.Positive amount ∧ Term days
  | .extendLoan days => Term days
  | .buy amount _ | .sell amount | .borrowMore amount | .repay amount | .removeCollateral amount
  | .closePosition amount | .stake amount | .unstake amount => Amount.Positive amount
  | .flashClosePosition | .liquidate => True

/-- The terms that pass are those within the limits. -/
private theorem checkTerm_eq_ok_iff {days : UInt64} : checkTerm days = .ok () ↔ Term days := by
  have hzero : days = 0 ↔ days.toNat = 0 := by
    rw [← UInt64.toNat_inj]
    rfl
  unfold checkTerm Term longestTerm
  split
  · rename_i hbad
    rw [hzero] at hbad
    exact ⟨nofun, fun hterm => by omega⟩
  · rename_i hgood
    rw [hzero] at hgood
    exact ⟨fun _ => by omega, fun _ => rfl⟩

/-- A term that passes is no longer than the longest one. -/
theorem toNat_le_of_checkTerm {days : UInt64} (h : checkTerm days = .ok ()) :
    days.toNat ≤ longestTerm :=
  (checkTerm_eq_ok_iff.mp h).2

/-- The texts of a token that pass are those that say something and are short enough. -/
theorem checkText_eq_ok_iff {field : TokenField} {text : String} :
    checkText field text = .ok () ↔ Describes text field.limit := by
  have hempty : text = "" ↔ text.utf8ByteSize = 0 := String.utf8ByteSize_eq_zero_iff.symm
  unfold checkText Describes
  dsimp only
  rw [ne_eq, hempty]
  split
  · rename_i hbad
    exact ⟨nofun, fun ⟨hne, hle⟩ => by omega⟩
  · rename_i hgood
    exact ⟨fun _ => by omega, fun _ => rfl⟩

/-- The input of an operation passes its check exactly if it is as the documentation says. -/
theorem validate_ok_iff (operation : Operation) :
    operation.validate = .ok () ↔ operation.Documented := by
  cases operation with
  | setUp receiver mint buyFee sellFee leverageFee =>
    simp only [validate, Documented, seq_eq_ok_iff, Fee.exists_parse_eq_ok_iff, Fee.Percentage,
      Pure.pure, Except.pure, and_true]
  | update change =>
    exact ConfigChange.validate_eq_ok_iff.trans (and_congr_right fun _ =>
      ConfigChange.exists_arguments_iff)
  | start amount name symbol uri =>
    simp only [validate, Documented, check_seq_eq_ok_iff, Amount.checkPositive_eq_ok_iff,
      checkText_eq_ok_iff, Amount.Positive, TokenField.limit]
  | borrow amount days | leverage amount days =>
    simp only [validate, Documented, check_seq_eq_ok_iff, Amount.checkPositive_eq_ok_iff,
      checkTerm_eq_ok_iff, Amount.Positive]
  | extendLoan days => exact checkTerm_eq_ok_iff
  | buy amount _ | sell amount | borrowMore amount | repay amount | removeCollateral amount
  | closePosition amount | stake amount | unstake amount => exact Amount.checkPositive_eq_ok_iff
  | flashClosePosition | liquidate => exact ⟨fun _ => trivial, fun _ => rfl⟩

end Operation

end LendingClient
