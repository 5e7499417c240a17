import LendingClient.Amount.Numeral
import LendingClient.Proofs.Text.Digits

/-!
# Units of numerals

A numeral is turned into units by words of 64 bits: the digits on both sides of the point are read
into words, the whole part is multiplied by the scale, and the parts are added. Each step may find
that its result is no word. All of them together fail exactly when the units are no word, so nothing
is refused for what only comes up in between, and nothing is lost.
-/

namespace LendingClient.Numeral

/-- The number of units that a numeral stands for at a scale, however large. -/
def units (numeral : Numeral) (decimals : Nat) : Nat :=
  Text.valueOfDigits numeral.whole * 10 ^ decimals +
    Text.valueOfDigits numeral.fraction * 10 ^ (decimals - numeral.fraction.length)

/-- Zeros behind the digits after the point move them to the places of the scale. -/
theorem valueOfDigits_rightpad (chars : List Char) (width : Nat) :
    Text.valueOfDigits (chars.rightpad width '0') =
      Text.valueOfDigits chars * 10 ^ (width - chars.length) := by
  rw [List.rightpad, Text.valueOfDigits_append, Text.valueOfDigits_zeros, List.length_replicate,
    Nat.add_zero]

/-- The steps by words come to the units exactly, and come to nothing only if those are no word. -/
theorem word?_eq_some_iff {numeral : Numeral} {decimals : Nat} {scale word : UInt64}
    (hscale : scale.toNat = 10 ^ decimals) :
    numeral.word? decimals scale = some word ↔ word.toNat = numeral.units decimals := by
  have hunits : numeral.units decimals = Text.valueOfDigits numeral.whole * scale.toNat +
      Text.valueOfDigits (numeral.fraction.rightpad decimals '0') := by
    rw [units, valueOfDigits_rightpad, hscale]
  have hpositive : 0 < scale.toNat := by
    rw [hscale]
    exact Nat.pow_pos (by decide)
  simp only [word?, Word.mul?, Word.add?, Option.bind_eq_bind, Option.bind_eq_some_iff,
    Word.ofDigits?_eq_some_iff, Word.ofNat?_eq_some_iff]
  constructor
  · rintro ⟨whole, hwhole, fraction, hfraction, product, hproduct, hword⟩
    rw [hword, hproduct, hwhole, hfraction, hunits]
  · intro hword
    rw [hunits] at hword
    -- no step comes to more than the units do
    have hsmall : word.toNat < UInt64.size := word.toNat_lt_size
    have hscaled : Text.valueOfDigits numeral.whole ≤
        Text.valueOfDigits numeral.whole * scale.toNat := Nat.le_mul_of_pos_right _ hpositive
    obtain ⟨whole, hwhole⟩ : ∃ whole : UInt64, whole.toNat = Text.valueOfDigits numeral.whole :=
      Word.exists_toNat_eq (by omega)
    obtain ⟨fraction, hfraction⟩ : ∃ fraction : UInt64,
        fraction.toNat = Text.valueOfDigits (numeral.fraction.rightpad decimals '0') :=
      Word.exists_toNat_eq (by omega)
    obtain ⟨product, hproduct⟩ : ∃ product : UInt64,
        product.toNat = Text.valueOfDigits numeral.whole * scale.toNat :=
      Word.exists_toNat_eq (by omega)
    refine ⟨whole, hwhole, fraction, hfraction, product, ?_, ?_⟩
    · rw [hproduct, hwhole]
    · rw [hproduct, hfraction, hword]

/-- A unit of a scale is a word up to nineteen decimal places. -/
theorem pow_lt_size_iff {decimals : Nat} : 10 ^ decimals < UInt64.size ↔ decimals ≤ 19 := by
  constructor
  · intro h
    by_contra hmore
    have hpower : 10 ^ 20 ≤ 10 ^ decimals := Nat.pow_le_pow_right (by decide) (by omega)
    have hlarge : UInt64.size ≤ 10 ^ 20 := by decide
    omega
  · intro h
    have hpower : 10 ^ decimals ≤ 10 ^ 19 := Nat.pow_le_pow_right (by decide) h
    have hsmall : 10 ^ 19 < UInt64.size := by decide
    omega

/-- What a numeral is scaled to: its units, unless it is finer than the scale, or the scale or the
units are no word. -/
theorem scaled_eq (numeral : Numeral) (decimals : UInt8) :
    numeral.scaled decimals =
      if decimals.toNat < numeral.fraction.length then .error (.tooPrecise decimals)
      else if 19 < decimals.toNat then .error .scaleTooLarge
      else if UInt64.size ≤ numeral.units decimals.toNat then .error .tooLarge
      else .ok (UInt64.ofNat (numeral.units decimals.toNat)) := by
  have hten : (10 : UInt64).toNat = 10 := rfl
  unfold scaled
  by_cases hfine : decimals.toNat < numeral.fraction.length
  · rw [if_pos hfine, if_pos hfine]
  rw [if_neg hfine, if_neg hfine]
  cases hpower : Word.pow? 10 decimals.toNat with
  | none =>
    have hlarge := Word.ofNat?_eq_none_iff.mp hpower
    rw [hten, Nat.pow_eq] at hlarge
    have hplaces : ¬ decimals.toNat ≤ 19 := fun h => by
      have := pow_lt_size_iff.mpr h
      omega
    rw [if_pos (by omega)]
  | some scale =>
    have hscale : scale.toNat = 10 ^ decimals.toNat := Word.ofNat?_eq_some_iff.mp hpower
    have hplaces : decimals.toNat ≤ 19 := pow_lt_size_iff.mp (hscale ▸ scale.toNat_lt_size)
    rw [if_neg (by omega)]
    dsimp only
    cases hword : numeral.word? decimals.toNat scale with
    | none =>
      have hlarge : UInt64.size ≤ numeral.units decimals.toNat := by
        by_contra hsmall
        obtain ⟨word, hunits⟩ := Word.exists_toNat_eq (Nat.lt_of_not_le hsmall)
        rw [(word?_eq_some_iff hscale).mpr hunits] at hword
        cases hword
      rw [if_pos hlarge]
    | some word =>
      have hunits := (word?_eq_some_iff hscale).mp hword
      rw [← hunits, if_neg (Nat.not_le_of_lt word.toNat_lt_size), UInt64.ofNat_toNat]

/-- Scaling comes to the exact units of a numeral that is not finer than the scale, if neither the
scale nor the units need more than 64 bits. -/
theorem scaled_eq_ok_iff_units {numeral : Numeral} {decimals : UInt8} {units : UInt64} :
    numeral.scaled decimals = .ok units ↔ numeral.fraction.length ≤ decimals.toNat ∧
      decimals.toNat ≤ 19 ∧ units.toNat = numeral.units decimals.toNat := by
  rw [scaled_eq]
  constructor
  · intro h
    split at h
    · cases h
    · split at h
      · cases h
      · split at h
        · cases h
        · rename_i hfits
          cases h
          exact ⟨by omega, by omega, UInt64.toNat_ofNat_of_lt' (by omega)⟩
  · rintro ⟨hlength, hscale, hunits⟩
    have hfits : units.toNat < UInt64.size := units.toNat_lt_size
    rw [if_neg (by omega), if_neg (by omega), if_neg (by omega), ← hunits, UInt64.ofNat_toNat]

end LendingClient.Numeral
