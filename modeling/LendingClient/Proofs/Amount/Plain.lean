import LendingClient.Amount.Basic
import LendingClient.Proofs.Amount.Decimal
import Mathlib.Data.List.DropRight

/-!
# How amounts are shown

A number of units is shown as a plain numeral: no zero stands in it that could be left out at either
end. It is the numeral that is left of every decimal text for the same units once such zeros are
gone, so no other one with a digit before the point is shorter. What is shown is exact at all
scales of which 128 bits hold the unit; finer scales count as none, which is exact for zero only.
-/

namespace LendingClient

open LendingClient.Text (digits digitsOfWidth valueOfDigits)

namespace Amount

/-- Zeros at the end are dropped by core's function from the right. -/
theorem dropTrailingZeros_eq (chars : List Char) :
    dropTrailingZeros chars = chars.rdropWhile (· == '0') :=
  rfl

/-- What is dropped are zeros. -/
theorem exists_eq_append_zeros (chars : List Char) :
    ∃ count, chars = dropTrailingZeros chars ++ List.replicate count '0' := by
  refine ⟨(chars.rtakeWhile (· == '0')).length, ?_⟩
  have hzeros : chars.rtakeWhile (· == '0') =
      List.replicate (chars.rtakeWhile (· == '0')).length '0' :=
    List.eq_replicate_of_mem fun c hc => by simpa using List.mem_rtakeWhile_imp hc
  rw [← hzeros, dropTrailingZeros_eq, List.rdropWhile_append_rtakeWhile]

/-- Zeros that were put at the end are dropped with those before them. -/
theorem dropTrailingZeros_append_zeros (chars : List Char) (count : Nat) :
    dropTrailingZeros (chars ++ List.replicate count '0') = dropTrailingZeros chars := by
  induction count with
  | zero => rw [List.replicate_zero, List.append_nil]
  | succ count ih =>
    rw [List.replicate_succ', ← List.append_assoc, dropTrailingZeros_eq,
      List.rdropWhile_concat_pos _ _ _ rfl, ← dropTrailingZeros_eq, ih]

private theorem dropTrailingZeros_eq_nil_iff {chars : List Char} :
    dropTrailingZeros chars = [] ↔ ∀ c ∈ chars, c = '0' := by
  rw [dropTrailingZeros_eq, List.rdropWhile_eq_nil_iff]
  simp only [beq_iff_eq]

private theorem getLast?_dropTrailingZeros_ne (chars : List Char) :
    (dropTrailingZeros chars).getLast? ≠ some '0' := by
  intro hlast
  rw [dropTrailingZeros_eq] at hlast
  have hne : chars.rdropWhile (· == '0') ≠ [] := by
    intro hnil
    rw [hnil] at hlast
    cases hlast
  have hkept := List.rdropWhile_last_not (· == '0') chars hne
  rw [List.getLast?_eq_some_getLast hne, Option.some.injEq] at hlast
  exact hkept (by rw [hlast]; rfl)

private theorem mem_of_mem_dropTrailingZeros {chars : List Char} {c : Char}
    (h : c ∈ dropTrailingZeros chars) : c ∈ chars :=
  (List.rdropWhile_prefix (· == '0') (l := chars)).subset h

private theorem length_dropTrailingZeros_le (chars : List Char) :
    (dropTrailingZeros chars).length ≤ chars.length :=
  (List.rdropWhile_prefix (· == '0') (l := chars)).length_le

end Amount

namespace Numeral

/-- The digits of a numeral, with a point between them if there are some behind it. -/
def chars (numeral : Numeral) : List Char :=
  numeral.whole ++ if numeral.fraction = [] then [] else '.' :: numeral.fraction

/-- A text is a plain numeral: digits with at most one point among them, at least one digit before
the point and one behind it, no zero in front that could be left out, and none at the end behind
the point. -/
structure Plain (numeral : Numeral) (text : String) : Prop where
  text_eq : text = String.ofList numeral.chars
  isDigit : ∀ c ∈ numeral.whole ++ numeral.fraction, c.isDigit = true
  whole_ne_nil : numeral.whole ≠ []
  head_ne : 1 < numeral.whole.length → numeral.whole.head? ≠ some '0'
  getLast_ne : numeral.fraction.getLast? ≠ some '0'

/-- A numeral without the zeros that could be left out. -/
def trimmed (numeral : Numeral) : Numeral :=
  ⟨digits (valueOfDigits numeral.whole), Amount.dropTrailingZeros numeral.fraction⟩

variable {numeral : Numeral} {text : String} {places : Nat}

private theorem chars_of_eq_nil (h : numeral.fraction = []) : numeral.chars = numeral.whole := by
  rw [chars, if_pos h, List.append_nil]

private theorem chars_of_ne_nil (h : numeral.fraction ≠ []) :
    numeral.chars = numeral.whole ++ '.' :: numeral.fraction := by
  rw [chars, if_neg h]

/-- A numeral in plain form is spelled out. -/
theorem Plain.spelled (h : numeral.Plain text) : numeral.Spelled text := by
  have hsome : numeral.whole ++ numeral.fraction ≠ [] := fun hnil =>
    h.whole_ne_nil (List.append_eq_nil_iff.mp hnil).1
  by_cases hnone : numeral.fraction = []
  · refine ⟨[], [], [], ?_, nofun, nofun, .inr ⟨rfl, hnone⟩, h.isDigit, hsome⟩
    rw [h.text_eq, String.toList_ofList, chars_of_eq_nil hnone, hnone]
    simp
  · refine ⟨[], ['.'], [], ?_, nofun, nofun, .inl rfl, h.isDigit, hsome⟩
    rw [h.text_eq, String.toList_ofList, chars_of_ne_nil hnone]
    simp

/-- A text is at least as long as the digits of a numeral that it spells, with the point if there
are digits behind it. -/
theorem length_chars_le (h : numeral.Spelled text) : numeral.chars.length ≤ text.length := by
  obtain ⟨before, point, after, htext, -, -, hpoint, -, -⟩ := h
  rw [← String.length_toList, htext]
  simp only [List.length_append]
  by_cases hnone : numeral.fraction = []
  · rw [chars_of_eq_nil hnone]
    omega
  · rcases hpoint with rfl | ⟨-, hnil⟩
    · rw [chars_of_ne_nil hnone, List.length_append, List.length_cons, List.length_singleton]
      omega
    · exact absurd hnil hnone

/-- The first digit of a number of several digits is not zero. -/
theorem head?_digits_ne {value : Nat} (h : 1 < (digits value).length) :
    (digits value).head? ≠ some '0' := by
  intro hzero
  obtain ⟨rest, hrest⟩ := List.head?_eq_some_iff.mp hzero
  have hdigits : ∀ c ∈ rest, c.isDigit = true := fun c hc =>
    Text.isDigit_of_mem_digits (hrest ▸ List.mem_cons_of_mem _ hc)
  have hvalue : valueOfDigits rest = value := by
    have hread := Text.valueOfDigits_digits value
    rw [hrest, Text.valueOfDigits_cons] at hread
    simpa using hread
  have hne : rest ≠ [] := by
    rintro rfl
    rw [hrest] at h
    exact absurd h (Nat.lt_irrefl 1)
  -- without the zero there would be fewer digits than the number has
  have hshort := Text.length_digits_valueOfDigits_le hdigits hne
  rw [hvalue, hrest, List.length_cons] at hshort
  omega

section Trimmed

variable (hdigits : ∀ c ∈ numeral.whole ++ numeral.fraction, c.isDigit = true)
include hdigits

/-- Without the zeros at its end a numeral is in plain form. -/
theorem plain_trimmed : numeral.trimmed.Plain (String.ofList numeral.trimmed.chars) where
  text_eq := rfl
  isDigit c hc := by
    rcases List.mem_append.mp hc with hwhole | hfraction
    · exact Text.isDigit_of_mem_digits hwhole
    · exact hdigits c (List.mem_append_right _ (Amount.mem_of_mem_dropTrailingZeros hfraction))
  whole_ne_nil := Nat.toDigits_ne_nil
  head_ne := head?_digits_ne
  getLast_ne := Amount.getLast?_dropTrailingZeros_ne _

/-- A numeral with a digit before the point is no shorter than what is left of it without the zeros
that could be left out. -/
theorem length_chars_trimmed_le (hwhole : numeral.whole ≠ []) :
    numeral.trimmed.chars.length ≤ numeral.chars.length := by
  have hfront : numeral.trimmed.whole.length ≤ numeral.whole.length :=
    Text.length_digits_valueOfDigits_le (fun c hc => hdigits c (List.mem_append_left _ hc)) hwhole
  have hback : numeral.trimmed.fraction.length ≤ numeral.fraction.length :=
    Amount.length_dropTrailingZeros_le numeral.fraction
  by_cases hnone : numeral.trimmed.fraction = []
  · rw [chars_of_eq_nil hnone, chars, List.length_append]
    omega
  · have hfraction : numeral.fraction ≠ [] := fun hnil => hnone (by rw [trimmed, hnil]; rfl)
    rw [chars_of_ne_nil hnone, chars_of_ne_nil hfraction]
    simp only [List.length_append, List.length_cons]
    omega

end Trimmed

private theorem length_fraction_trimmed_le (h : numeral.fraction.length ≤ places) :
    numeral.trimmed.fraction.length ≤ places :=
  (Amount.length_dropTrailingZeros_le _).trans h

section Places

variable (hdigits : ∀ c ∈ numeral.whole ++ numeral.fraction, c.isDigit = true)
  (hlength : numeral.fraction.length ≤ places)
include hdigits hlength

/-- Zeros behind the digits after the point fill the places of the scale. -/
theorem spells_rightpad :
    Text.Spells places (valueOfDigits (numeral.fraction.rightpad places '0'))
      (numeral.fraction.rightpad places '0') where
  length_eq := by
    rw [List.length_rightpad]
    omega
  isDigit c hc := by
    rcases List.mem_append.mp hc with hdigit | hzero
    · exact hdigits c (List.mem_append_right _ hdigit)
    · rw [List.eq_of_mem_replicate hzero]
      rfl
  value_eq := rfl

/-- The units of a numeral are divided by the scale into what stands before the point and after it. -/
theorem units_div_mod :
    numeral.units places / 10 ^ places = valueOfDigits numeral.whole ∧
      numeral.units places % 10 ^ places =
        valueOfDigits (numeral.fraction.rightpad places '0') := by
  have hless := (spells_rightpad hdigits hlength).value_lt
  have hunits : numeral.units places = 10 ^ places * valueOfDigits numeral.whole +
      valueOfDigits (numeral.fraction.rightpad places '0') := by
    rw [units, valueOfDigits_rightpad, Nat.mul_comm]
  constructor
  · rw [hunits, Nat.mul_add_div (Nat.pow_pos (by decide)), Nat.div_eq_of_lt hless, Nat.add_zero]
  · rw [hunits, Nat.mul_add_mod, Nat.mod_eq_of_lt hless]

end Places

/-- The numeral of a number of units at a scale, with a digit in each of its places. -/
def ofUnits (value places : Nat) : Numeral :=
  ⟨digits (value / 10 ^ places), digitsOfWidth places (value % 10 ^ places)⟩

section OfUnits

variable {value : Nat}

/-- The numeral of some units has only digits before and after its point. -/
theorem isDigit_ofUnits :
    ∀ c ∈ (ofUnits value places).whole ++ (ofUnits value places).fraction, c.isDigit = true :=
  List.forall_mem_append.mpr
    ⟨fun _ => Text.isDigit_of_mem_digits, fun _ => Text.isDigit_of_mem_digitsOfWidth⟩

variable (hplaces : 0 < places)
include hplaces

private theorem spells_fraction_ofUnits :
    Text.Spells places (value % 10 ^ places) (ofUnits value places).fraction :=
  Text.spells_digitsOfWidth hplaces (Nat.mod_lt value (Nat.pow_pos (by decide)))

/-- The numeral of some units has all its decimal places. -/
theorem length_fraction_ofUnits : (ofUnits value places).fraction.length = places :=
  (spells_fraction_ofUnits hplaces).length_eq

/-- The numeral of some units stands for these units. -/
theorem units_ofUnits : (ofUnits value places).units places = value := by
  have hwhole : valueOfDigits (ofUnits value places).whole = value / 10 ^ places :=
    Text.valueOfDigits_digits _
  rw [units, hwhole, (spells_fraction_ofUnits hplaces).value_eq, length_fraction_ofUnits hplaces,
    Nat.sub_self, pow_zero, Nat.mul_one, Nat.div_add_mod']

end OfUnits

/-- Zeros that could be left out do not count. -/
theorem units_trimmed (h : numeral.fraction.length ≤ places) :
    numeral.trimmed.units places = numeral.units places := by
  obtain ⟨count, hcount⟩ := Amount.exists_eq_append_zeros numeral.fraction
  have hvalue : valueOfDigits numeral.fraction =
      valueOfDigits (Amount.dropTrailingZeros numeral.fraction) * 10 ^ count := by
    conv_lhs => rw [hcount]
    rw [Text.valueOfDigits_append, Text.valueOfDigits_zeros, List.length_replicate, Nat.add_zero]
  have hlength : numeral.fraction.length =
      (Amount.dropTrailingZeros numeral.fraction).length + count := by
    conv_lhs => rw [hcount]
    rw [List.length_append, List.length_replicate]
  have hplaces : places - (Amount.dropTrailingZeros numeral.fraction).length =
      count + (places - numeral.fraction.length) := by omega
  simp only [units, trimmed]
  rw [Text.valueOfDigits_digits, hvalue, hplaces, pow_add, Nat.mul_assoc]

end Numeral

namespace Amount

/-- The decimal places that are shown: a scale whose unit needs more than 128 bits counts as none. -/
def shownPlaces (decimals : UInt8) : Nat :=
  if decimals.toNat ≤ 38 then decimals.toNat else 0

variable {raw : UInt64} {decimals : UInt8} {numeral : Numeral}

private theorem shownPlaces_of_le (h : decimals.toNat ≤ 38) :
    shownPlaces decimals = decimals.toNat :=
  if_pos h

private theorem shownPlaces_of_gt (h : 38 < decimals.toNat) : shownPlaces decimals = 0 :=
  if_neg (Nat.not_le_of_lt h)

/-- The unit of a scale needs more than 128 bits from 39 decimal places on. -/
theorem two_pow_le_ten_pow_iff {places : Nat} : 2 ^ 128 ≤ 10 ^ places ↔ 38 < places := by
  constructor
  · intro h
    by_contra hfew
    have hpower : 10 ^ places ≤ 10 ^ 38 := Nat.pow_le_pow_right (by decide) (by omega)
    have hsmall : 10 ^ 38 < 2 ^ 128 := by decide
    omega
  · intro h
    have hpower : 10 ^ 39 ≤ 10 ^ places := Nat.pow_le_pow_right (by decide) h
    have hlarge : 2 ^ 128 ≤ 10 ^ 39 := by decide
    omega

/-- A number of units is shown by its quotient and remainder at the places that are shown. -/
theorem format_eq (raw : UInt64) (decimals : UInt8) :
    format raw decimals = String.ofList
      (if raw.toNat % 10 ^ shownPlaces decimals = 0 then
        digits (raw.toNat / 10 ^ shownPlaces decimals)
      else digits (raw.toNat / 10 ^ shownPlaces decimals) ++ '.' ::
        dropTrailingZeros
          (digitsOfWidth (shownPlaces decimals) (raw.toNat % 10 ^ shownPlaces decimals))) := by
  have hnone : decimals = 0 ∨ Nat.pow 2 128 ≤ Nat.pow 10 decimals.toNat ↔
      shownPlaces decimals = 0 := by
    have hzero : decimals = 0 ↔ decimals.toNat = 0 := UInt8.toNat_inj.symm
    rw [Nat.pow_eq, Nat.pow_eq, two_pow_le_ten_pow_iff, hzero, shownPlaces]
    split
    · omega
    · omega
  unfold format
  dsimp only
  by_cases hplaces : shownPlaces decimals = 0
  · rw [if_pos (hnone.mpr hplaces), hplaces, pow_zero, Nat.mod_one, if_pos rfl, Nat.div_one]
  · have hscale : shownPlaces decimals = decimals.toNat := by
      unfold shownPlaces at hplaces ⊢
      split
      · rfl
      · rename_i hlarge
        exact absurd (if_neg hlarge) hplaces
    rw [if_neg (mt hnone.mp hplaces), hscale, Nat.pow_eq]
    split
    · rfl
    · rfl

/-- What is shown is what any numeral for the units is without the zeros that could be left out. -/
theorem format_eq_chars_trimmed
    (hdigits : ∀ c ∈ numeral.whole ++ numeral.fraction, c.isDigit = true)
    (hlength : numeral.fraction.length ≤ shownPlaces decimals)
    (hunits : numeral.units (shownPlaces decimals) = raw.toNat) :
    format raw decimals = String.ofList numeral.trimmed.chars := by
  have hspells := Numeral.spells_rightpad hdigits hlength
  obtain ⟨hquotient, hremainder⟩ := Numeral.units_div_mod hdigits hlength
  rw [format_eq, ← hunits, hquotient, hremainder]
  generalize shownPlaces decimals = places at hspells
  have hdropped : dropTrailingZeros (numeral.fraction.rightpad places '0') =
      numeral.trimmed.fraction := dropTrailingZeros_append_zeros _ _
  have hzero : valueOfDigits (numeral.fraction.rightpad places '0') = 0 ↔
      numeral.trimmed.fraction = [] := by
    rw [Text.valueOfDigits_eq_zero_iff hspells.isDigit, ← dropTrailingZeros_eq_nil_iff, hdropped]
  congr 1
  by_cases hnone : numeral.trimmed.fraction = []
  · rw [if_pos (hzero.mpr hnone), Numeral.chars_of_eq_nil hnone]
    rfl
  · have hvalue := hspells.value_lt
    have hplaces : 0 < places := by
      by_contra hno
      obtain rfl : places = 0 := by omega
      rw [pow_zero] at hvalue
      exact hnone (hzero.mp (by omega))
    -- the digits of the remainder are those behind the point, once these fill the places
    have hsame := ((Text.spells_digitsOfWidth hplaces hvalue).eq_iff hspells).mpr rfl
    rw [if_neg (mt hzero.mp hnone), hsame, hdropped, Numeral.chars_of_ne_nil hnone]
    rfl

/-- Every number of units has a numeral that is as fine as the scale. -/
theorem exists_units_eq (value places : Nat) :
    ∃ numeral : Numeral, (∀ c ∈ numeral.whole ++ numeral.fraction, c.isDigit = true) ∧
      numeral.fraction.length ≤ places ∧ numeral.units places = value := by
  rcases Nat.eq_zero_or_pos places with rfl | hplaces
  · refine ⟨⟨digits value, []⟩, ?_, Nat.le_refl _, ?_⟩
    · rw [List.append_nil]
      exact fun c => Text.isDigit_of_mem_digits
    · rw [Numeral.units, Text.valueOfDigits_digits, pow_zero, Nat.mul_one]
      rfl
  · exact ⟨.ofUnits value places, Numeral.isDigit_ofUnits,
      (Numeral.length_fraction_ofUnits hplaces).le, Numeral.units_ofUnits hplaces⟩

/-- What is shown is a plain numeral for the units at the places that are shown. -/
theorem exists_plain_format (raw : UInt64) (decimals : UInt8) :
    ∃ numeral : Numeral, numeral.Plain (format raw decimals) ∧
      numeral.fraction.length ≤ shownPlaces decimals ∧
      numeral.units (shownPlaces decimals) = raw.toNat := by
  obtain ⟨numeral, hdigits, hlength, hunits⟩ :=
    exists_units_eq raw.toNat (shownPlaces decimals)
  refine ⟨numeral.trimmed, ?_, Numeral.length_fraction_trimmed_le hlength, ?_⟩
  · rw [format_eq_chars_trimmed hdigits hlength hunits]
    exact Numeral.plain_trimmed hdigits
  · rw [Numeral.units_trimmed hlength, hunits]

example : format 1050000 6 = "1.05" := by decide

/-- A number of units is always shown as a plain numeral. What that stands for is exact at each scale
of at most 38 decimal places; a finer one counts as none, which is exact for zero only. -/
theorem format_exact_iff (raw : UInt64) (decimals : UInt8) :
    ∃ numeral : Numeral, numeral.Plain (format raw decimals) ∧
      (numeral.value = (raw.toNat : ℚ) / 10 ^ decimals.toNat ↔
        decimals.toNat ≤ 38 ∨ raw = 0) := by
  obtain ⟨numeral, hplain, hlength, hunits⟩ := exists_plain_format raw decimals
  have hvalue := Numeral.cast_units hlength
  rw [hunits] at hvalue
  refine ⟨numeral, hplain, ?_⟩
  by_cases hplaces : decimals.toNat ≤ 38
  · rw [shownPlaces_of_le hplaces] at hvalue
    have hpower : (10 : ℚ) ^ decimals.toNat ≠ 0 := by positivity
    exact iff_of_true (by rw [hvalue]; field_simp) (.inl hplaces)
  · rw [shownPlaces_of_gt (by omega), pow_zero, mul_one] at hvalue
    have hlarge : (10 : ℚ) ^ decimals.toNat ≠ 1 :=
      ne_of_gt (one_lt_pow₀ (by norm_num) (by omega))
    have hpower : (10 : ℚ) ^ decimals.toNat ≠ 0 := by positivity
    have hzero : raw = 0 ↔ (raw.toNat : ℚ) = 0 := by
      rw [Nat.cast_eq_zero, ← UInt64.toNat_inj]
      rfl
    rw [or_iff_right hplaces, hzero, ← hvalue, eq_div_iff hpower]
    constructor
    · intro h
      by_contra hne
      exact hlarge (mul_left_cancel₀ hne (by rw [h, mul_one]))
    · intro h
      rw [h, zero_mul]

/-- Five units of 39 decimal places are shown as five. -/
theorem format_unscaled : ¬ ∃ numeral : Numeral, numeral.Plain (format 5 39) ∧
    numeral.value = (5 : ℚ) / 10 ^ 39 := by
  rintro ⟨numeral, hplain, hvalue⟩
  have htext : Numeral.read (format 5 39) = .ok ⟨['5'], []⟩ := by decide +kernel
  obtain rfl := hplain.spelled.unique (Numeral.read_eq_ok_iff.mp htext)
  have hfive : Numeral.value ⟨['5'], []⟩ = 5 := by
    change ((5 : ℕ) : ℚ) + ((0 : ℕ) : ℚ) / 10 ^ 0 = 5
    norm_num
  rw [hfive] at hvalue
  norm_num at hvalue

/-- Units are read back from what is shown of them, at the scales at which anything is read. -/
theorem parseFixed_format_iff (raw : UInt64) (decimals : UInt8) :
    parseFixed (format raw decimals) decimals = .ok raw ↔ decimals.toNat ≤ 19 := by
  rw [parseFixed_eq_ok_iff]
  constructor
  · rintro ⟨-, -, -, hscale, -⟩
    exact hscale
  · intro hscale
    obtain ⟨numeral, hplain, hlength, hunits⟩ := exists_plain_format raw decimals
    rw [shownPlaces_of_le (by omega)] at hlength hunits
    exact ⟨numeral, hplain.spelled, hlength, hscale, hunits.symm⟩

/-- What is shown of units is no longer than a text that they are read from, if that has a digit
before the point. -/
theorem length_format_le {text : String} (hread : parseFixed text decimals = .ok raw)
    (hspelled : numeral.Spelled text) (hwhole : numeral.whole ≠ []) :
    (format raw decimals).length ≤ text.length := by
  obtain ⟨other, hother, hlength, hscale, hunits⟩ := parseFixed_eq_ok_iff.mp hread
  obtain rfl := hother.unique hspelled
  have hplaces : shownPlaces decimals = decimals.toNat := shownPlaces_of_le (by omega)
  have hdigits := hspelled.isDigit
  rw [format_eq_chars_trimmed hdigits (hplaces ▸ hlength) (hplaces ▸ hunits.symm),
    String.length_ofList]
  exact (Numeral.length_chars_trimmed_le hdigits hwhole).trans (Numeral.length_chars_le hspelled)

/-- Showing units and reading them are inverse at the scales at which anything is read. What is shown
is a plain numeral, and no text for the same units that has a digit before the point is shorter. So
two texts that are read come to the same units exactly if those are shown alike. -/
theorem format_inverse (raw : UInt64) (decimals : UInt8) :
    (parseFixed (format raw decimals) decimals = .ok raw ↔ decimals.toNat ≤ 19) ∧
      (∃ numeral : Numeral, numeral.Plain (format raw decimals)) ∧
      (∀ text, parseFixed text decimals = .ok raw →
        (∃ numeral : Numeral, numeral.Spelled text ∧ numeral.whole ≠ []) →
        (format raw decimals).length ≤ text.length) ∧
      ∀ text other units otherUnits, parseFixed text decimals = .ok units →
        parseFixed other decimals = .ok otherUnits →
        (format units decimals = format otherUnits decimals ↔ units = otherUnits) := by
  refine ⟨parseFixed_format_iff raw decimals, ?_, ?_, ?_⟩
  · obtain ⟨numeral, hplain, -, -⟩ := exists_plain_format raw decimals
    exact ⟨numeral, hplain⟩
  · rintro text hread ⟨numeral, hspelled, hwhole⟩
    exact length_format_le hread hspelled hwhole
  · intro text other units otherUnits hread _
    obtain ⟨-, -, -, hscale, -⟩ := parseFixed_eq_ok_iff.mp hread
    refine ⟨fun halike => ?_, fun hsame => by rw [hsame]⟩
    have hback := (parseFixed_format_iff units decimals).mpr hscale
    rw [halike, (parseFixed_format_iff otherUnits decimals).mpr hscale] at hback
    exact (Except.ok.inj hback).symm

end Amount

end LendingClient
