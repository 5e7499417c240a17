import LendingClient.Amount.Fee
import LendingClient.Proofs.Amount.Units
import LendingClient.Proofs.Except
import Mathlib.Algebra.Order.Field.Rat
import Mathlib.Data.Nat.Digits.Defs
import Mathlib.Tactic.FieldSimp
import Mathlib.Tactic.Linarith
import Mathlib.Tactic.Positivity
import Mathlib.Tactic.Ring

/-!
# What decimal texts stand for

A decimal text is digits with at most one point among them, at least one digit, and blanks at its
ends. It stands for a rational number. Amounts and fees are read from exactly the texts that are
decimal, fine enough and not too large, and what is read is exact: nothing is rounded.
-/

namespace LendingClient

namespace Text

/-- Blanks in front of something that begins with no blank are all that is cut off. -/
theorem trimStart_append {blanks rest : List Char} (hblanks : ∀ c ∈ blanks, isBlank c = true)
    (hrest : ∀ c, rest.head? = some c → isBlank c = false) : trimStart (blanks ++ rest) = rest := by
  rw [trimStart, List.dropWhile_append_of_pos hblanks]
  cases rest with
  | nil => rfl
  | cons c rest => simp [hrest c rfl]

/-- Blanks at both ends of a text are all that is cut off. -/
theorem trim_append {before body after : List Char} (hbefore : ∀ c ∈ before, isBlank c = true)
    (hbody : ∀ c ∈ body, isBlank c = false) (hne : body ≠ [])
    (hafter : ∀ c ∈ after, isBlank c = true) :
    trim (before ++ body ++ after) = body := by
  have hhead {c : Char} (h : (body ++ after).head? = some c) : isBlank c = false := by
    rw [List.head?_append_of_ne_nil _ hne] at h
    exact hbody c (List.mem_of_mem_head? h)
  have hlast {c : Char} (h : body.reverse.head? = some c) : isBlank c = false :=
    hbody c (List.mem_reverse.mp (List.mem_of_mem_head? h))
  have hblanks : ∀ c ∈ after.reverse, isBlank c = true := fun c h =>
    hafter c (List.mem_reverse.mp h)
  rw [trim, List.append_assoc, trimStart_append hbefore fun c => hhead, trimEnd,
    List.reverse_append, trimStart_append hblanks fun c => hlast, List.reverse_reverse]

/-- A text is what is left of it with blanks at both ends. -/
theorem exists_eq_trim (chars : List Char) :
    ∃ before after, chars = before ++ trim chars ++ after ∧ (∀ c ∈ before, isBlank c = true) ∧
      ∀ c ∈ after, isBlank c = true := by
  have hblank {p : Char → Bool} {c : Char} {chars : List Char} (h : c ∈ chars.takeWhile p) :
      p c = true := List.all_eq_true.mp (List.all_takeWhile) c h
  refine ⟨chars.takeWhile isBlank, ((trimStart chars).reverse.takeWhile isBlank).reverse, ?_,
    fun c => hblank, fun c h => hblank (List.mem_reverse.mp h)⟩
  have hsplit (chars : List Char) : chars.takeWhile isBlank ++ trimStart chars = chars :=
    List.takeWhile_append_dropWhile
  have hend : trim chars ++ ((trimStart chars).reverse.takeWhile isBlank).reverse =
      trimStart chars := by
    rw [trim, trimEnd, ← List.reverse_append, hsplit, List.reverse_reverse]
  rw [List.append_assoc, hend, hsplit]

private theorem isBlank_of_isDigit {c : Char} (h : c.isDigit = true) : isBlank c = false := by
  have hrange := toNat_of_isDigit h
  simp only [isBlank, Bool.or_eq_false_iff, Bool.and_eq_false_iff, decide_eq_false_iff_not,
    beq_eq_false_iff_ne]
  omega

private theorem ne_point_of_isDigit {c : Char} (h : c.isDigit = true) : c ≠ '.' := by
  rintro rfl
  cases h

end Text

namespace Numeral

/-- A text is decimal: digits with at most one point among them, at least one digit, and blanks at its
ends. The numeral has the digits before the point and those after it. -/
def Spelled (text : String) (numeral : Numeral) : Prop :=
  ∃ before point after,
    text.toList = before ++ (numeral.whole ++ point ++ numeral.fraction) ++ after ∧
    (∀ c ∈ before, Text.isBlank c = true) ∧ (∀ c ∈ after, Text.isBlank c = true) ∧
    (point = ['.'] ∨ point = [] ∧ numeral.fraction = []) ∧
    (∀ c ∈ numeral.whole ++ numeral.fraction, c.isDigit = true) ∧
    numeral.whole ++ numeral.fraction ≠ []

/-- What stands between the blanks of a decimal text has no blanks. -/
theorem isBlank_of_mem_body {whole point fraction : List Char} {c : Char}
    (hpoint : point = ['.'] ∨ point = [] ∧ fraction = [])
    (hdigits : ∀ c ∈ whole ++ fraction, c.isDigit = true) (h : c ∈ whole ++ point ++ fraction) :
    Text.isBlank c = false := by
  have hdigit (hmem : c ∈ whole ++ fraction) : Text.isBlank c = false :=
    Text.isBlank_of_isDigit (hdigits c hmem)
  rcases List.mem_append.mp h with hfront | hfraction
  · rcases List.mem_append.mp hfront with hwhole | hmem
    · exact hdigit (List.mem_append_left _ hwhole)
    · rcases hpoint with rfl | ⟨rfl, -⟩
      · rw [List.mem_singleton.mp hmem]
        rfl
      · cases hmem
  · exact hdigit (List.mem_append_right _ hfraction)

/-- Digits up to a point, or up to the end, are the whole part; what follows is the fraction. -/
theorem split_at_point {whole point fraction : List Char}
    (hpoint : point = ['.'] ∨ point = [] ∧ fraction = [])
    (hwhole : ∀ c ∈ whole, c.isDigit = true) :
    (whole ++ point ++ fraction).takeWhile (· != '.') = whole ∧
      ((whole ++ point ++ fraction).dropWhile (· != '.')).drop 1 = fraction := by
  have hnone : ∀ c ∈ whole, (c != '.') = true := fun c hc => by
    simpa using Text.ne_point_of_isDigit (hwhole c hc)
  rw [List.append_assoc, List.takeWhile_append_of_pos hnone, List.dropWhile_append_of_pos hnone]
  rcases hpoint with rfl | ⟨rfl, rfl⟩
  · simp
  · simp

/-- A decimal text is read as the numeral that it spells, and no other text is. -/
theorem read_eq_ok_iff {text : String} {numeral : Numeral} :
    read text = .ok numeral ↔ numeral.Spelled text := by
  constructor
  · intro h
    unfold read at h
    dsimp only at h
    obtain ⟨before, after, htext, hbefore, hafter⟩ := Text.exists_eq_trim text.toList
    generalize Text.trim text.toList = chars at h htext
    have hsplit := List.takeWhile_append_dropWhile (p := (· != '.')) (l := chars)
    have hpoint : ∃ point, chars.dropWhile (· != '.') =
        point ++ (chars.dropWhile (· != '.')).drop 1 ∧
        (point = ['.'] ∨ point = [] ∧ (chars.dropWhile (· != '.')).drop 1 = []) := by
      have hfirst := List.head?_dropWhile_not (· != '.') chars
      cases hrest : chars.dropWhile (· != '.') with
      | nil => exact ⟨[], rfl, .inr ⟨rfl, rfl⟩⟩
      | cons c rest =>
        rw [hrest] at hfirst
        obtain rfl : c = '.' := by simpa using hfirst
        exact ⟨['.'], rfl, .inl rfl⟩
    obtain ⟨point, hdrop, hpoint⟩ := hpoint
    split at h
    · cases h
    · split at h
      · cases h
      · rename_i hsome
        split at h
        · rename_i hdigits
          cases h
          refine ⟨before, point, after, ?_, hbefore, hafter, hpoint, ?_, ?_⟩
          · rw [List.append_assoc _ point, ← hdrop, hsplit]
            exact htext
          · exact List.forall_mem_append.mpr (by simpa using hdigits)
          · simpa using hsome
        · cases h
  · rintro ⟨before, point, after, htext, hbefore, hafter, hpoint, hdigits, hne⟩
    obtain ⟨hwhole, hfraction⟩ := split_at_point hpoint fun c hc =>
      hdigits c (List.mem_append_left _ hc)
    have hbody : numeral.whole ++ point ++ numeral.fraction ≠ [] := by
      intro hnil
      simp only [List.append_eq_nil_iff] at hnil
      exact hne (by rw [hnil.1.1, hnil.2]; rfl)
    have htrim : Text.trim text.toList = numeral.whole ++ point ++ numeral.fraction := by
      rw [htext]
      exact Text.trim_append hbefore (fun c => isBlank_of_mem_body hpoint hdigits) hbody hafter
    have hsome : ¬ (numeral.whole.isEmpty && numeral.fraction.isEmpty) = true := by
      simpa using hne
    have hall : (numeral.whole.all Char.isDigit && numeral.fraction.all Char.isDigit) = true := by
      simpa using List.forall_mem_append.mp hdigits
    unfold read
    rw [htrim]
    dsimp only
    rw [hwhole, hfraction, if_neg (by simpa using hbody), if_neg hsome, if_pos hall]

/-- A text spells one numeral at most. -/
theorem Spelled.unique {text : String} {numeral other : Numeral} (h : numeral.Spelled text)
    (hother : other.Spelled text) : numeral = other :=
  Except.ok.inj ((read_eq_ok_iff.mpr h).symm.trans (read_eq_ok_iff.mpr hother))

/-- A numeral that is spelled out has only digits before and after its point. -/
theorem Spelled.isDigit {text : String} {numeral : Numeral} (h : numeral.Spelled text) :
    ∀ c ∈ numeral.whole ++ numeral.fraction, c.isDigit = true := by
  obtain ⟨-, -, -, -, -, -, -, hdigits, -⟩ := h
  exact hdigits

/-- The number that a numeral stands for: each digit counts by its place. -/
def value (numeral : Numeral) : ℚ :=
  let number (chars : List Char) : ℕ := Nat.ofDigits 10 (chars.reverse.map fun c => c.toNat - 48)
  number numeral.whole + number numeral.fraction / 10 ^ numeral.fraction.length

/-- The reader of digits counts each by its place. -/
theorem valueOfDigits_eq (chars : List Char) :
    Text.valueOfDigits chars = Nat.ofDigits 10 (chars.reverse.map fun c => c.toNat - 48) := by
  induction chars using List.reverseRecOn with
  | nil => rfl
  | append_singleton chars c ih =>
    have hzero : '0'.toNat = 48 := rfl
    rw [Text.valueOfDigits_concat, List.reverse_append, List.reverse_singleton,
      List.singleton_append, List.map_cons, Nat.ofDigits_cons, ← ih, hzero]
    omega

/-- The units of a numeral are exact at every scale that is fine enough. -/
theorem cast_units {numeral : Numeral} {decimals : Nat}
    (h : numeral.fraction.length ≤ decimals) :
    (numeral.units decimals : ℚ) = numeral.value * 10 ^ decimals := by
  obtain ⟨rest, rfl⟩ := Nat.exists_eq_add_of_le h
  have hpower : (10 : ℚ) ^ numeral.fraction.length ≠ 0 := by positivity
  simp only [units, value, valueOfDigits_eq, Nat.add_sub_cancel_left]
  push_cast
  rw [pow_add]
  field_simp

private theorem value_nonneg (numeral : Numeral) : 0 ≤ numeral.value := by
  unfold value
  positivity

/-- A numeral is scaled exactly if it is not finer than the scale, and neither the scale nor what it
stands for is too large. -/
theorem scaled_eq_ok_iff {numeral : Numeral} {decimals : UInt8} {units : UInt64} :
    numeral.scaled decimals = .ok units ↔ numeral.fraction.length ≤ decimals.toNat ∧
      decimals.toNat ≤ 19 ∧ (units.toNat : ℚ) = numeral.value * 10 ^ decimals.toNat := by
  rw [scaled_eq_ok_iff_units]
  refine and_congr_right fun hlength => and_congr_right fun _ => ?_
  rw [← cast_units hlength, Nat.cast_inj]

/-- A numeral stands for nothing but zero exactly if all of its digits are zeros. -/
theorem isZero_eq_false_iff {numeral : Numeral} :
    numeral.isZero = false ↔ ∃ c ∈ numeral.whole ++ numeral.fraction, c ≠ '0' := by
  unfold isZero
  rw [List.all_eq_false]
  simp only [beq_iff_eq, ne_eq]

end Numeral

/-- What is read in two steps is there exactly if a text spells a numeral that does for the second
step. -/
theorem bind_read_eq_ok_iff {α ε : Type} {input : String} {f : Numeral → Except NumeralFault α}
    {fault : NumeralFault → ε} {result : α} :
    ((Numeral.read input).bind f).mapError fault = .ok result ↔
      ∃ numeral : Numeral, numeral.Spelled input ∧ f numeral = .ok result := by
  rw [mapError_eq_ok_iff]
  change (Numeral.read input >>= f) = .ok result ↔ _
  rw [bind_eq_ok_iff]
  simp only [Numeral.read_eq_ok_iff]

/-- What is wrong with a text, or with the numeral that it spells, at a scale. -/
def NumeralFault.Applies (why : NumeralFault) (input : String) (decimals : UInt8) : Prop :=
  match why with
  | .empty | .noDigits | .malformed => ∀ numeral : Numeral, ¬ numeral.Spelled input
  | .tooPrecise places => places = decimals ∧
      ∃ numeral : Numeral, numeral.Spelled input ∧ decimals.toNat < numeral.fraction.length
  | .scaleTooLarge => (∃ numeral : Numeral, numeral.Spelled input) ∧ 19 < decimals.toNat
  | .tooLarge =>
      ∃ numeral : Numeral, numeral.Spelled input ∧ 2 ^ 64 ≤ numeral.units decimals.toNat

/-- A text that is not read spells no numeral. -/
theorem Numeral.applies_of_read {input : String} {why : NumeralFault} (decimals : UInt8)
    (h : read input = .error why) : why.Applies input decimals := by
  have hnone (numeral : Numeral) : ¬ numeral.Spelled input := fun hspelled => by
    rw [read_eq_ok_iff.mpr hspelled] at h
    cases h
  unfold read at h
  dsimp only at h
  split at h
  · cases h
    exact hnone
  · split at h
    · cases h
      exact hnone
    · split at h
      · cases h
      · cases h
        exact hnone

/-- A numeral that is not scaled is too fine, or it or the scale is too large. -/
theorem Numeral.applies_of_scaled {input : String} {numeral : Numeral} {decimals : UInt8}
    {why : NumeralFault} (hspelled : numeral.Spelled input)
    (h : numeral.scaled decimals = .error why) : why.Applies input decimals := by
  rw [scaled_eq] at h
  split at h
  · rename_i hfine
    cases h
    exact ⟨rfl, numeral, hspelled, hfine⟩
  · split at h
    · rename_i hscale
      cases h
      exact ⟨⟨numeral, hspelled⟩, hscale⟩
    · split at h
      · rename_i hlarge
        cases h
        exact ⟨numeral, hspelled, hlarge⟩
      · cases h

namespace Amount

/-- The texts that are read as units are exactly those that spell a numeral which is not finer than
the scale, where neither the scale nor the units need more than 64 bits, and what is read is the
exact number of units. Every other text is refused, with what is wrong with it. -/
theorem parseFixed_exact (input : String) (decimals : UInt8) :
    (∀ units, parseFixed input decimals = .ok units ↔
      ∃ numeral : Numeral, numeral.Spelled input ∧
        numeral.fraction.length ≤ decimals.toNat ∧ decimals.toNat ≤ 19 ∧
        numeral.units decimals.toNat ≤ 2 ^ 64 - 1 ∧
        units.toNat = numeral.units decimals.toNat) ∧
      ∀ fault, parseFixed input decimals = .error fault →
        ∃ why, fault = .numeral why input ∧ why.Applies input decimals := by
  constructor
  · intro units
    have hword : units.toNat ≤ 2 ^ 64 - 1 := Nat.le_sub_one_of_lt units.toNat_lt_size
    have hfits {numeral : Numeral} : units.toNat = numeral.units decimals.toNat ↔
        numeral.units decimals.toNat ≤ 2 ^ 64 - 1 ∧
          units.toNat = numeral.units decimals.toNat :=
      iff_and_self.mpr fun hunits => hunits ▸ hword
    rw [parseFixed, bind_read_eq_ok_iff]
    simp only [Numeral.scaled_eq_ok_iff_units, ← hfits]
  · intro fault h
    unfold parseFixed at h
    cases hread : Numeral.read input with
    | error why =>
      rw [hread] at h
      cases h
      exact ⟨why, rfl, Numeral.applies_of_read decimals hread⟩
    | ok numeral =>
      rw [hread] at h
      change (numeral.scaled decimals).mapError _ = _ at h
      cases hscaled : numeral.scaled decimals with
      | error why =>
        rw [hscaled] at h
        cases h
        exact ⟨why, rfl, Numeral.applies_of_scaled (Numeral.read_eq_ok_iff.mp hread) hscaled⟩
      | ok units =>
        rw [hscaled] at h
        cases h

/-- Units are read exactly if a text spells a numeral that has them. -/
theorem parseFixed_eq_ok_iff {input : String} {decimals : UInt8} {units : UInt64} :
    parseFixed input decimals = .ok units ↔ ∃ numeral : Numeral, numeral.Spelled input ∧
      numeral.fraction.length ≤ decimals.toNat ∧ decimals.toNat ≤ 19 ∧
      units.toNat = numeral.units decimals.toNat := by
  rw [parseFixed, bind_read_eq_ok_iff]
  simp only [Numeral.scaled_eq_ok_iff_units]

/-- An amount is read exactly if units are, and these are not none. -/
theorem parse_eq_ok_iff_ne_zero {input : String} {decimals : UInt8} {units : UInt64} :
    parse input decimals = .ok units ↔ parseFixed input decimals = .ok units ∧ units ≠ 0 := by
  unfold parse
  rw [bind_eq_ok_iff]
  constructor
  · rintro ⟨raw, hraw, hrest⟩
    split at hrest
    · cases hrest
    · rename_i hne
      cases hrest
      exact ⟨hraw, hne⟩
  · rintro ⟨hraw, hne⟩
    refine ⟨units, hraw, ?_⟩
    rw [if_neg hne]
    rfl

/-- An amount is read from exactly the texts that are decimal, not finer than the scale, not zero and
not too large, and the units are exact. -/
theorem parse_eq_ok_iff {input : String} {decimals : UInt8} {units : UInt64} :
    parse input decimals = .ok units ↔ ∃ numeral : Numeral, numeral.Spelled input ∧
      numeral.fraction.length ≤ decimals.toNat ∧ decimals.toNat ≤ 19 ∧
      (units.toNat : ℚ) = numeral.value * 10 ^ decimals.toNat ∧ 0 < numeral.value := by
  have hpositive {numeral : Numeral}
      (hunits : (units.toNat : ℚ) = numeral.value * 10 ^ decimals.toNat) :
      units ≠ 0 ↔ 0 < numeral.value := by
    have hpower : (0 : ℚ) < 10 ^ decimals.toNat := by positivity
    have hzero : units = 0 ↔ (units.toNat : ℚ) = 0 := by
      rw [Nat.cast_eq_zero, ← UInt64.toNat_inj]
      rfl
    rw [ne_eq, hzero, hunits, mul_eq_zero, not_or, numeral.value_nonneg.lt_iff_ne']
    exact and_iff_left hpower.ne'
  rw [parse_eq_ok_iff_ne_zero, parseFixed, bind_read_eq_ok_iff]
  constructor
  · rintro ⟨⟨numeral, hspelled, hscaled⟩, hne⟩
    obtain ⟨hlength, hscale, hunits⟩ := Numeral.scaled_eq_ok_iff.mp hscaled
    exact ⟨numeral, hspelled, hlength, hscale, hunits, (hpositive hunits).mp hne⟩
  · rintro ⟨numeral, hspelled, hlength, hscale, hunits, hvalue⟩
    exact ⟨⟨numeral, hspelled, Numeral.scaled_eq_ok_iff.mpr ⟨hlength, hscale, hunits⟩⟩,
      (hpositive hunits).mpr hvalue⟩

/-- A text passes as an amount exactly if it is decimal and one of its digits is not zero. -/
theorem checkPositive_eq_ok_iff {input : String} :
    checkPositive input = .ok () ↔ ∃ numeral : Numeral, numeral.Spelled input ∧
      ∃ c ∈ numeral.whole ++ numeral.fraction, c ≠ '0' := by
  unfold checkPositive
  rw [bind_eq_ok_iff]
  refine exists_congr fun numeral => and_congr ?_ ?_
  · rw [mapError_eq_ok_iff, Numeral.read_eq_ok_iff]
  · rw [← Numeral.isZero_eq_false_iff]
    cases numeral.isZero with
    | true => exact ⟨nofun, nofun⟩
    | false => exact ⟨fun _ => rfl, fun _ => rfl⟩

end Amount

namespace Fee

/-- A fee is read from exactly the texts that are decimal with at most two digits after the point and
stand for at most one hundred percent, and the rate is a hundred times the percentage. -/
theorem parse_eq_ok_iff {field : FeeField} {input : String} {rate : UInt64} :
    parse field input = .ok rate ↔ ∃ numeral : Numeral, numeral.Spelled input ∧
      numeral.fraction.length ≤ 2 ∧ numeral.value ≤ 100 ∧
        (rate.toNat : ℚ) = 100 * numeral.value := by
  have hparse : parse field input = .ok rate ↔
      ((Numeral.read input).bind (·.scaled decimals)).mapError
          (InputFault.fee field · input) = .ok rate ∧
        ¬ whole < rate := by
    unfold parse
    rw [bind_eq_ok_iff]
    constructor
    · rintro ⟨raw, hraw, hrest⟩
      split at hrest
      · cases hrest
      · rename_i hle
        cases hrest
        exact ⟨hraw, hle⟩
    · rintro ⟨hraw, hle⟩
      refine ⟨rate, hraw, ?_⟩
      rw [if_neg hle]
      rfl
  have hdecimals : decimals.toNat = 2 := rfl
  have hscaled {numeral : Numeral} : numeral.scaled decimals = .ok rate ↔
      numeral.fraction.length ≤ 2 ∧ (rate.toNat : ℚ) = 100 * numeral.value := by
    rw [Numeral.scaled_eq_ok_iff, hdecimals]
    constructor
    · rintro ⟨hlength, -, hrate⟩
      exact ⟨hlength, by rw [hrate]; ring⟩
    · rintro ⟨hlength, hrate⟩
      exact ⟨hlength, by decide, by rw [hrate]; ring⟩
  have hbound {numeral : Numeral} (hrate : (rate.toNat : ℚ) = 100 * numeral.value) :
      ¬ whole < rate ↔ numeral.value ≤ 100 := by
    have hcast : rate.toNat ≤ 10000 ↔ (rate.toNat : ℚ) ≤ 10000 := by norm_cast
    rw [UInt64.not_lt, UInt64.le_iff_toNat_le]
    change rate.toNat ≤ 10000 ↔ _
    rw [hcast, hrate]
    constructor
    · intro h
      linarith
    · intro h
      linarith
  rw [hparse, bind_read_eq_ok_iff]
  constructor
  · rintro ⟨⟨numeral, hspelled, hnumeral⟩, hle⟩
    obtain ⟨hlength, hrate⟩ := hscaled.mp hnumeral
    exact ⟨numeral, hspelled, hlength, (hbound hrate).mp hle, hrate⟩
  · rintro ⟨numeral, hspelled, hlength, hvalue, hrate⟩
    exact ⟨⟨numeral, hspelled, hscaled.mpr ⟨hlength, hrate⟩⟩, (hbound hrate).mpr hvalue⟩

/-- A text passes as a fee exactly if it is decimal with at most two digits after the point and stands
for at most one hundred percent. -/
theorem exists_parse_eq_ok_iff {field : FeeField} {input : String} :
    (∃ rate, parse field input = .ok rate) ↔ ∃ numeral : Numeral, numeral.Spelled input ∧
      numeral.fraction.length ≤ 2 ∧ numeral.value ≤ 100 := by
  simp only [parse_eq_ok_iff]
  constructor
  · rintro ⟨rate, numeral, hspelled, hlength, hvalue, -⟩
    exact ⟨numeral, hspelled, hlength, hvalue⟩
  · rintro ⟨numeral, hspelled, hlength, hvalue⟩
    have hunits : (numeral.units 2 : ℚ) = 100 * numeral.value := by
      rw [Numeral.cast_units hlength]
      ring
    have hsmall : numeral.units 2 ≤ 10000 := by
      have : (numeral.units 2 : ℚ) ≤ 10000 := by linarith
      exact_mod_cast this
    have hfits : numeral.units 2 < UInt64.size :=
      Nat.lt_of_le_of_lt hsmall (by decide)
    refine ⟨UInt64.ofNat (numeral.units 2), numeral, hspelled, hlength, hvalue, ?_⟩
    rw [UInt64.toNat_ofNat_of_lt' hfits, hunits]

end Fee

end LendingClient
