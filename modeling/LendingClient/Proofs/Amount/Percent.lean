import LendingClient.Proofs.Amount.Plain

/-!
# How fees are shown

A fee is kept in hundredths of a percent and shown in percent, with two digits behind the point. Main
statements: what is shown stands for exactly the stored number, so the same number is read from it,
and it is read as a fee for as long as it is no more than one hundred percent.
-/

namespace LendingClient.Fee

variable {field : FeeField} {raw rate : UInt64} {text : String}

/-- What is shown for a rate spells its units at two decimal places. -/
theorem spelled_percent (raw : UInt64) : (Numeral.ofUnits raw.toNat 2).Spelled (percent raw) := by
  refine ⟨[], ['.'], [], ?_, nofun, nofun, .inl rfl, Numeral.isDigit_ofUnits, ?_⟩
  · rw [percent, String.toList_ofList]
    simp [Numeral.ofUnits]
  · intro hnone
    have hlength : (Numeral.ofUnits raw.toNat 2).fraction.length = 2 :=
      Numeral.length_fraction_ofUnits (by decide)
    rw [(List.append_eq_nil_iff.mp hnone).2] at hlength
    cases hlength

/-- A rate counts hundredths of what is shown for it. -/
theorem toNat_eq_value_ofUnits (raw : UInt64) :
    (raw.toNat : ℚ) = 100 * (Numeral.ofUnits raw.toNat 2).value := by
  have hlength : (Numeral.ofUnits raw.toNat 2).fraction.length = 2 :=
    Numeral.length_fraction_ofUnits (by decide)
  have hunits := Numeral.cast_units hlength.le
  rw [Numeral.units_ofUnits (by decide)] at hunits
  rw [hunits]
  ring

/-- From what is shown for a rate the rate is read back, whatever it is. -/
theorem parseFixed_percent (raw : UInt64) : Amount.parseFixed (percent raw) decimals = .ok raw :=
  Amount.parseFixed_eq_ok_iff.mpr ⟨.ofUnits raw.toNat 2, spelled_percent raw,
    (Numeral.length_fraction_ofUnits (by decide)).le, by decide,
    (Numeral.units_ofUnits (by decide)).symm⟩

/-- What is shown for a rate is read as a fee unless it is more than one hundred percent. -/
theorem parse_percent_eq_ok_iff : parse field (percent raw) = .ok rate ↔
    raw ≤ whole ∧ rate = raw := by
  have hbound : raw ≤ whole ↔ (Numeral.ofUnits raw.toNat 2).value ≤ 100 := by
    have hcast : raw ≤ whole ↔ (raw.toNat : ℚ) ≤ 10000 := by
      rw [UInt64.le_iff_toNat_le]
      exact_mod_cast Iff.rfl
    rw [hcast, toNat_eq_value_ofUnits]
    constructor
    · intro h
      linarith
    · intro h
      linarith
  rw [parse_eq_ok_iff, hbound]
  constructor
  · rintro ⟨numeral, hspelled, -, hvalue, hrate⟩
    obtain rfl := hspelled.unique (spelled_percent raw)
    refine ⟨hvalue, UInt64.toNat_inj.mp ?_⟩
    rw [← toNat_eq_value_ofUnits] at hrate
    exact_mod_cast hrate
  · rintro ⟨hvalue, rfl⟩
    exact ⟨_, spelled_percent rate, (Numeral.length_fraction_ofUnits (by decide)).le, hvalue,
      toNat_eq_value_ofUnits rate⟩

example : percent 5 = "0.05" := by decide

/-- What is shown for a rate is a numeral of the same value as a text. -/
def ShownAs (text : String) (rate : UInt64) : Prop :=
  ∃ numeral shown : Numeral, numeral.Spelled text ∧ shown.Spelled (percent rate) ∧
    shown.value = numeral.value

/-- A rate that counts the hundredths of a text is shown with the text's value. -/
theorem shownAs_of_spelled {numeral : Numeral} (hspelled : numeral.Spelled text)
    (hrate : (rate.toNat : ℚ) = 100 * numeral.value) : ShownAs text rate := by
  refine ⟨numeral, .ofUnits rate.toNat 2, hspelled, spelled_percent rate, ?_⟩
  rw [toNat_eq_value_ofUnits] at hrate
  linarith

end LendingClient.Fee
