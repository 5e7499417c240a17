import LendingClient.Proofs.Operation.Input

/-!
# The amounts of operations

The amount of an operation is looked at twice: when its input is checked, where no scale is known
and only the characters count, and when the batch is built, where the units at the scale of the
asset count. Both agree at every scale. A numeral stands for no unit exactly if all of its digits
are zeros, so what the check lets through is never found to be zero or no number afterwards.
-/

namespace LendingClient

/-- A numeral comes to no unit exactly if all of its digits are zeros. -/
theorem Numeral.units_eq_zero_iff {numeral : Numeral}
    (hdigits : ∀ c ∈ numeral.whole ++ numeral.fraction, c.isDigit = true) (decimals : Nat) :
    numeral.units decimals = 0 ↔ ∀ c ∈ numeral.whole ++ numeral.fraction, c = '0' := by
  obtain ⟨hwhole, hfraction⟩ := List.forall_mem_append.mp hdigits
  have hpower (places : Nat) : 10 ^ places ≠ 0 := Nat.ne_of_gt (Nat.pow_pos (by decide))
  rw [units, Nat.add_eq_zero_iff, Nat.mul_eq_zero, Nat.mul_eq_zero, or_iff_left (hpower _),
    or_iff_left (hpower _), Text.valueOfDigits_eq_zero_iff hwhole,
    Text.valueOfDigits_eq_zero_iff hfraction, ← List.forall_mem_append]

/-- If a numeral is not scaled, it is too fine, or it or the scale is too large. -/
theorem Numeral.why_of_scaled {numeral : Numeral} {decimals : UInt8} {why : NumeralFault}
    (h : numeral.scaled decimals = .error why) :
    why = .tooPrecise decimals ∨ why = .scaleTooLarge ∨ why = .tooLarge := by
  rw [scaled_eq] at h
  split at h
  · cases h
    exact .inl rfl
  · split at h
    · cases h
      exact .inr (.inl rfl)
    · split at h
      · cases h
        exact .inr (.inr rfl)
      · cases h

namespace Amount

variable {input : String} {decimals : UInt8} {units : UInt64}

/-- A text that spells a numeral is read by scaling the numeral. -/
private theorem parseFixed_of_spelled {numeral : Numeral} (h : numeral.Spelled input) :
    parseFixed input decimals = (numeral.scaled decimals).mapError (.numeral · input) := by
  rw [parseFixed, Numeral.read_eq_ok_iff.mpr h]
  rfl

/-- Of a text that units are read from, the check asks whether there are any. -/
theorem checkPositive_iff_ne_zero (h : parseFixed input decimals = .ok units) :
    checkPositive input = .ok () ↔ units ≠ 0 := by
  obtain ⟨numeral, hspelled, -, -, hunits⟩ := parseFixed_eq_ok_iff.mp h
  have hzero : units = 0 ↔ ∀ c ∈ numeral.whole ++ numeral.fraction, c = '0' := by
    rw [← Numeral.units_eq_zero_iff hspelled.isDigit, ← hunits, ← UInt64.toNat_inj]
    rfl
  rw [checkPositive_eq_ok_iff, ne_eq, hzero]
  simp only [not_forall, exists_prop]
  constructor
  · rintro ⟨other, hother, hsome⟩
    exact hother.unique hspelled ▸ hsome
  · intro hsome
    exact ⟨numeral, hspelled, hsome⟩

/-- An amount is read at a scale exactly if it passes the check that knows no scale, and units are
read at that scale. -/
theorem parse_iff_checkPositive :
    parse input decimals = .ok units ↔
      checkPositive input = .ok () ∧ parseFixed input decimals = .ok units := by
  rw [parse_eq_ok_iff_ne_zero, and_comm]
  exact and_congr_left fun h => (checkPositive_iff_ne_zero h).symm

/-- An amount that passed the check can only be too fine for a scale, or it or the scale is too
large. -/
theorem why_of_parse {fault : InputFault} (hpositive : checkPositive input = .ok ())
    (h : parse input decimals = .error fault) :
    ∃ why, fault = .numeral why input ∧ why.Applies input decimals ∧
      (why = .tooPrecise decimals ∨ why = .scaleTooLarge ∨ why = .tooLarge) := by
  obtain ⟨numeral, hspelled, -⟩ := checkPositive_eq_ok_iff.mp hpositive
  have hfixed : parseFixed input decimals = .error fault := by
    cases hread : parseFixed input decimals with
    | error other =>
      rw [parse, hread] at h
      exact h
    | ok units =>
      rw [parse_iff_checkPositive.mpr ⟨hpositive, hread⟩] at h
      cases h
  rw [parseFixed_of_spelled hspelled] at hfixed
  cases hscaled : numeral.scaled decimals with
  | error why =>
    rw [hscaled] at hfixed
    cases hfixed
    exact ⟨why, rfl, Numeral.applies_of_scaled hspelled hscaled, Numeral.why_of_scaled hscaled⟩
  | ok units =>
    rw [hscaled] at hfixed
    cases hfixed

end Amount

/-- A fault of the text of an amount. -/
def InputFault.OfAmount : InputFault → Prop
  | .numeral _ _ | .notPositive _ => True
  | _ => False

namespace Operation

/-- The text of the amount that an operation is about. -/
def amount? : Operation → Option String
  | .start amount _ _ _ | .buy amount _ | .sell amount | .borrow amount _ | .borrowMore amount
  | .leverage amount _ | .repay amount | .removeCollateral amount | .closePosition amount
  | .stake amount | .unstake amount => some amount
  | .setUp .. | .update _ | .extendLoan _ | .flashClosePosition | .liquidate => none

variable {operation : Operation} {amount : String} {fault : InputFault}

/-- What is wrong with the text of a token is nothing about an amount. -/
private theorem not_ofAmount_checkText {field : TokenField} {text : String}
    (h : checkText field text = .error fault) : ¬ fault.OfAmount := by
  unfold checkText at h
  dsimp only at h
  split at h
  · cases h
    exact id
  · cases h

/-- What is wrong with a term is nothing about an amount. -/
private theorem not_ofAmount_checkTerm {days : UInt64} (h : checkTerm days = .error fault) :
    ¬ fault.OfAmount := by
  unfold checkTerm at h
  split at h
  · cases h
    exact id
  · cases h

/-- An operation passes its check only if its amount does. -/
theorem checkPositive_of_validate (hamount : operation.amount? = some amount)
    (h : operation.validate = .ok ()) : Amount.checkPositive amount = .ok () := by
  cases operation with
  | setUp | update | extendLoan | flashClosePosition | liquidate => cases hamount
  | start | borrow | leverage =>
    cases hamount
    exact (check_seq_eq_ok_iff.mp h).1
  | buy | sell | borrowMore | repay | removeCollateral | closePosition | stake | unstake =>
    cases hamount
    exact h

/-- An operation with an amount that passes is refused for something else, if at all. -/
theorem not_ofAmount_of_validate (hamount : operation.amount? = some amount)
    (hpositive : Amount.checkPositive amount = .ok ()) (h : operation.validate = .error fault) :
    ¬ fault.OfAmount := by
  cases operation with
  | setUp | update | extendLoan | flashClosePosition | liquidate => cases hamount
  | start amount name symbol uri =>
    cases hamount
    rcases check_seq_eq_error_iff.mp h with hbad | ⟨-, hname⟩
    · rw [hpositive] at hbad
      cases hbad
    rcases check_seq_eq_error_iff.mp hname with hbad | ⟨-, hsymbol⟩
    · exact not_ofAmount_checkText hbad
    rcases check_seq_eq_error_iff.mp hsymbol with hbad | ⟨-, huri⟩
    · exact not_ofAmount_checkText hbad
    · exact not_ofAmount_checkText huri
  | borrow amount days | leverage amount days =>
    cases hamount
    rcases check_seq_eq_error_iff.mp h with hbad | ⟨-, hterm⟩
    · rw [hpositive] at hbad
      cases hbad
    · exact not_ofAmount_checkTerm hterm
  | buy | sell | borrowMore | repay | removeCollateral | closePosition | stake | unstake =>
    cases hamount
    rw [validate, hpositive] at h
    cases h

/-- The check that knows no scale agrees with every scale. An amount is read at a scale exactly if it
passes the check and units are read at that scale. So no operation is refused for an amount that
some scale admits, and the amount of an operation that was not refused can only be too fine for a
scale, or it or the scale is too large. -/
theorem amount_agrees (input : String) (decimals : UInt8) :
    (∀ units, Amount.parse input decimals = .ok units ↔
      Amount.checkPositive input = .ok () ∧ Amount.parseFixed input decimals = .ok units) ∧
    ∀ operation : Operation, operation.amount? = some input →
      ((∃ units, Amount.parse input decimals = .ok units) →
        ∀ fault, operation.validate = .error fault → ¬ fault.OfAmount) ∧
      (operation.validate = .ok () → ∀ fault, Amount.parse input decimals = .error fault →
        ∃ why, fault = .numeral why input ∧ why.Applies input decimals ∧
          (why = .tooPrecise decimals ∨ why = .scaleTooLarge ∨ why = .tooLarge)) := by
  refine ⟨fun units => Amount.parse_iff_checkPositive, fun operation hamount => ⟨?_, ?_⟩⟩
  · rintro ⟨units, hunits⟩ fault h
    exact not_ofAmount_of_validate hamount (Amount.parse_iff_checkPositive.mp hunits).1 h
  · intro hvalid fault h
    exact Amount.why_of_parse (checkPositive_of_validate hamount hvalid) h

end Operation

end LendingClient
