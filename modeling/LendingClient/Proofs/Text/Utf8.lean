import LendingClient.Text.Utf8

/-!
# Bytes of texts

A text is known by its bytes. Characters of the ASCII set take one byte each, which is their number,
so texts that are made of them are in the order of their characters.
-/

namespace LendingClient.Text

/-- A text has as many bytes as its size says. -/
theorem length_utf8 (text : String) : (utf8 text).length = text.utf8ByteSize :=
  rfl

/-- Texts with the same bytes are the same. -/
theorem utf8_inj {first second : String} (h : utf8 first = utf8 second) : first = second :=
  String.toByteArray_inj.mp (ByteArray.ext (Array.toList_inj.mp h))

/-- A character of the ASCII set fits a byte. -/
theorem toNat_toUInt8 {c : Char} (h : c.val ≤ 127) : c.val.toUInt8.toNat = c.toNat := by
  have hsmall : c.toNat ≤ 127 := UInt32.le_iff_toNat_le.mp h
  rw [UInt32.toNat_toUInt8]
  exact Nat.mod_eq_of_lt (Nat.lt_of_le_of_lt hsmall (by decide))

/-- Characters of the ASCII set take one byte each, which is their number. -/
theorem flatMap_utf8EncodeChar {chars : List Char} (h : ∀ c ∈ chars, c.val ≤ 127) :
    chars.flatMap String.utf8EncodeChar = chars.map fun c => c.val.toUInt8 := by
  induction chars with
  | nil => rfl
  | cons c rest ih =>
    obtain ⟨hc, hrest⟩ := List.forall_mem_cons.mp h
    rw [List.flatMap_cons, List.map_cons, ih hrest,
      String.utf8EncodeChar_eq_singleton (Char.utf8Size_eq_one_iff.mpr hc), List.singleton_append]

/-- The bytes of a text in ASCII are its code points. -/
theorem utf8_ofList {chars : List Char} (h : ∀ c ∈ chars, c.val ≤ 127) :
    utf8 (String.ofList chars) = chars.map fun c => c.val.toUInt8 := by
  rw [utf8, String.toUTF8, String.toByteArray_ofList, List.utf8Encode, List.data_toByteArray,
    List.toList_toArray, flatMap_utf8EncodeChar h]

/-- Texts of the ASCII set are in the order of their characters, byte by byte. -/
theorem utf8_lt_utf8_iff {first second : List Char} (hfirst : ∀ c ∈ first, c.val ≤ 127)
    (hsecond : ∀ c ∈ second, c.val ≤ 127) :
    utf8 (String.ofList first) < utf8 (String.ofList second) ↔ first < second := by
  rw [utf8_ofList hfirst, utf8_ofList hsecond]
  induction first generalizing second with
  | nil => cases second <;> simp
  | cons c rest ih =>
    cases second with
    | nil => simp
    | cons d other =>
      obtain ⟨hc, hrest⟩ := List.forall_mem_cons.mp hfirst
      obtain ⟨hd, hother⟩ := List.forall_mem_cons.mp hsecond
      have hlt : c.val.toUInt8 < d.val.toUInt8 ↔ c < d := by
        rw [UInt8.lt_iff_toNat_lt, toNat_toUInt8 hc, toNat_toUInt8 hd]
        rfl
      have heq : c.val.toUInt8 = d.val.toUInt8 ↔ c = d := by
        rw [← UInt8.toNat_inj, toNat_toUInt8 hc, toNat_toUInt8 hd, Char.toNat_inj]
      rw [List.map_cons, List.map_cons, List.cons_lt_cons_iff, List.cons_lt_cons_iff, hlt, heq,
        ih hrest hother]

end LendingClient.Text
