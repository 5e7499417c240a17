import LendingClient.Proofs.Layout

/-!
# Layouts read only what they write

The converse of reading back: a value is read only from bytes that begin with those that are written
for it. So the written form of a value is the only one, and bytes that are broken at a flag or at a
text are refused wherever that is. Of two values neither is written as the beginning of the other.
-/

namespace LendingClient

variable {α β : Type}

/-- A number that was read from so many bytes is written as these bytes. -/
theorem littleEndian_octets {width : Nat} (value : Octets width) :
    littleEndian width (ofLittleEndian value.bytes) = value.bytes := by
  have hwrite := littleEndian_ofLittleEndian value.bytes
  rwa [value.length_bytes] at hwrite

/-- A number that is read from so many bytes is below the number of their values. -/
theorem ofLittleEndian_octets_lt {width : Nat} (value : Octets width) :
    ofLittleEndian value.bytes < Nat.pow 256 width := by
  have hlt := ofLittleEndian_lt value.bytes
  rwa [value.length_bytes] at hlt

namespace Layout

/-- A value is read only from the bytes that are written for it, and what follows them is handed
on. -/
def Canonical (layout : Layout α) : Prop :=
  ∀ bytes value rest, layout.read bytes = .ok (value, rest) → bytes = layout.write value ++ rest

variable {bytes rest : Bytes}

private theorem eq_append_of_takeBytes {count : Nat} {front : Octets count}
    (h : takeBytes count bytes = .ok (front, rest)) : bytes = front.bytes ++ rest := by
  by_cases hcount : count ≤ bytes.length
  · rw [takeBytes, dif_pos hcount] at h
    cases h
    exact (List.take_append_drop count bytes).symm
  · rw [takeBytes, dif_neg hcount] at h
    cases h

private theorem takeBytes_of_lt {count : Nat} (h : bytes.length < count) :
    takeBytes count bytes = .error .truncated := by
  have hcount : ¬ count ≤ bytes.length := by omega
  rw [takeBytes, dif_neg hcount]

private theorem canonical_octets (count : Nat) : (octets count).Canonical :=
  fun _ _ _ => eq_append_of_takeBytes

/-- A key is read only from its own bytes. -/
theorem canonical_key : key.Canonical :=
  canonical_octets 32

private theorem canonical_u32 : u32.Canonical := by
  intro bytes value rest h
  obtain ⟨⟨front, later⟩, hfront, hvalue⟩ := map_eq_ok_iff.mp h
  cases hvalue
  have hnumber : (UInt32.ofNat (ofLittleEndian front.bytes)).toNat = ofLittleEndian front.bytes :=
    UInt32.toNat_ofNat_of_lt' (ofLittleEndian_octets_lt front)
  have hwrite : u32.write (UInt32.ofNat (ofLittleEndian front.bytes)) = front.bytes := by
    change littleEndian 4 (UInt32.ofNat (ofLittleEndian front.bytes)).toNat = front.bytes
    rw [hnumber, littleEndian_octets]
  rw [hwrite]
  exact eq_append_of_takeBytes hfront

/-- A number of 64 bits is read only from its own bytes. -/
theorem canonical_u64 : u64.Canonical := by
  intro bytes value rest h
  obtain ⟨⟨front, later⟩, hfront, hvalue⟩ := map_eq_ok_iff.mp h
  cases hvalue
  have hnumber : (UInt64.ofNat (ofLittleEndian front.bytes)).toNat = ofLittleEndian front.bytes :=
    UInt64.toNat_ofNat_of_lt' (ofLittleEndian_octets_lt front)
  have hwrite : u64.write (UInt64.ofNat (ofLittleEndian front.bytes)) = front.bytes := by
    change littleEndian 8 (UInt64.ofNat (ofLittleEndian front.bytes)).toNat = front.bytes
    rw [hnumber, littleEndian_octets]
  rw [hwrite]
  exact eq_append_of_takeBytes hfront

/-- A number of 64 bits with a sign is read only from its own bytes. -/
theorem canonical_i64 : i64.Canonical := by
  intro bytes value rest h
  obtain ⟨⟨number, later⟩, hnumber, hvalue⟩ := map_eq_ok_iff.mp h
  cases hvalue
  exact canonical_u64 bytes number rest hnumber

/-- A flag is read only from the byte that is written for it. -/
theorem canonical_flag : flag.Canonical := by
  intro bytes value rest h
  cases bytes with
  | nil => cases h
  | cons byte later =>
    change (if byte = 0 then Except.ok (false, later)
      else if byte = 1 then .ok (true, later) else .error (LayoutFault.flag byte)) =
        .ok (value, rest) at h
    by_cases hzero : byte = 0
    · rw [if_pos hzero] at h
      cases h
      rw [hzero]
      rfl
    · by_cases hone : byte = 1
      · rw [if_neg hzero, if_pos hone] at h
        cases h
        rw [hone]
        rfl
      · rw [if_neg hzero, if_neg hone] at h
        cases h

/-- A text is read as the number of its bytes and the bytes. -/
theorem read_text_eq_ok_iff {value : String} :
    text.read bytes = .ok (value, rest) ↔ ∃ length later content,
      u32.read bytes = .ok (length, later) ∧ takeBytes length.toNat later = .ok (content, rest) ∧
        Text.utf8 value = content.bytes := by
  simp only [text, bind_eq_ok_iff, Prod.exists]
  refine exists_congr fun length => exists_congr fun later => ?_
  constructor
  · rintro ⟨hlength, content, after, hcontent, hvalue⟩
    split at hvalue
    · rename_i read hread
      cases hvalue
      exact ⟨content, hlength, hcontent, Text.ofUtf8_eq_ok_iff.mp hread⟩
    · cases hvalue
  · rintro ⟨content, hlength, hcontent, hvalue⟩
    refine ⟨hlength, content, rest, hcontent, ?_⟩
    rw [Text.ofUtf8_eq_ok_iff.mpr hvalue]

/-- A text is read only from its own length and bytes. -/
theorem canonical_text : text.Canonical := by
  intro bytes value rest h
  obtain ⟨length, later, content, hlength, hcontent, hvalue⟩ := read_text_eq_ok_iff.mp h
  have hcount : (Text.utf8 value).length = length.toNat := by
    rw [hvalue, content.length_bytes]
  have hwrite : text.write value = u32.write length ++ content.bytes := by
    change u32.write (UInt32.ofNat (Text.utf8 value).length) ++ Text.utf8 value = _
    rw [hcount, hvalue, UInt32.ofNat_toNat]
  rw [hwrite, List.append_assoc, ← eq_append_of_takeBytes hcontent]
  exact canonical_u32 bytes length later hlength

/-- A value that may be missing is read only from what is written for it, if the value is. -/
theorem canonical_optional {field : Layout α} (hfield : field.Canonical) :
    (optional field).Canonical := by
  intro bytes value rest h
  cases bytes with
  | nil => cases h
  | cons byte later =>
    change (if byte = 0 then Except.ok (none, later)
      else if byte = 1 then (field.read later).map fun read => (some read.1, read.2)
      else .error (.presence byte)) = .ok (value, rest) at h
    by_cases hzero : byte = 0
    · rw [if_pos hzero] at h
      cases h
      rw [hzero]
      rfl
    · by_cases hone : byte = 1
      · rw [if_neg hzero, if_pos hone] at h
        obtain ⟨⟨inner, after⟩, hinner, hvalue⟩ := map_eq_ok_iff.mp h
        cases hvalue
        rw [hone, hfield later inner after hinner]
        rfl
      · rw [if_neg hzero, if_neg hone] at h
        cases h

/-- Two values, one behind the other, are read only from their own bytes, if each of them is. -/
theorem canonical_seq {first : Layout α} {second : Layout β} (hfirst : first.Canonical)
    (hsecond : second.Canonical) : (seq first second).Canonical := by
  intro bytes value rest h
  obtain ⟨⟨a, later⟩, ha, hrest⟩ := bind_eq_ok_iff.mp h
  obtain ⟨⟨b, after⟩, hb, hvalue⟩ := bind_eq_ok_iff.mp hrest
  cases hvalue
  calc
    bytes = first.write a ++ later := hfirst bytes a later ha
    _ = first.write a ++ (second.write b ++ rest) := by rw [hsecond later b rest hb]
    _ = (seq first second).write (a, b) ++ rest := (List.append_assoc _ _ _).symm

/-- A value in another shape is read only from its own bytes, as long as the change of shape can be
undone. -/
theorem canonical_via {layout : Layout α} {forth : α → β} {back : β → α}
    (hlayout : layout.Canonical) (hback : ∀ value, back (forth value) = value) :
    (layout.via forth back).Canonical := by
  intro bytes value rest h
  obtain ⟨⟨inner, later⟩, hinner, hvalue⟩ := map_eq_ok_iff.mp h
  cases hvalue
  change bytes = layout.write (back (forth inner)) ++ rest
  rw [hback]
  exact hlayout bytes inner rest hinner

/-- Of two values that are read back, neither is written as the beginning of the other. -/
theorem ReadsBack.eq_of_begins {layout : Layout α} {value other : α} (hvalue : layout.ReadsBack value)
    (hother : layout.ReadsBack other) (h : layout.write value <+: layout.write other) :
    value = other := by
  obtain ⟨rest, hrest⟩ := h
  have hread := hother.read_write
  rw [← hrest, hvalue rest] at hread
  cases hread
  rfl

/-! ## Broken bytes -/

/-- Bytes are broken somewhere: at a flag, or at the flag of an optional field, that is neither zero
nor one, or at a text that runs past the end or is no UTF-8. What stands before that place is read. -/
inductive Broken : {α : Type} → Layout α → Bytes → Prop
  /-- A flag is neither zero nor one. -/
  | flag {byte : UInt8} {rest : Bytes} (hzero : byte ≠ 0) (hone : byte ≠ 1) :
    Broken flag (byte :: rest)
  /-- The flag of an optional field is neither zero nor one. -/
  | presence {α : Type} {field : Layout α} {byte : UInt8} {rest : Bytes} (hzero : byte ≠ 0)
      (hone : byte ≠ 1) : Broken (optional field) (byte :: rest)
  /-- A text is longer than what is left. -/
  | textEnd {bytes rest : Bytes} {length : UInt32} (hlength : u32.read bytes = .ok (length, rest))
      (hend : rest.length < length.toNat) : Broken text bytes
  /-- A text is no UTF-8. -/
  | textForm {bytes content rest : Bytes} {length : UInt32}
      (hlength : u32.read bytes = .ok (length, content ++ rest))
      (hcontent : content.length = length.toNat) (hform : ∀ value, Text.utf8 value ≠ content) :
    Broken text bytes
  /-- An optional field is there and broken. -/
  | field {α : Type} {field : Layout α} {rest : Bytes} (h : Broken field rest) :
    Broken (optional field) (1 :: rest)
  /-- The first of two fields is broken. -/
  | first {α β : Type} {a : Layout α} {b : Layout β} {bytes : Bytes} (h : Broken a bytes) :
    Broken (seq a b) bytes
  /-- The second of two fields is broken. -/
  | second {α β : Type} {a : Layout α} {b : Layout β} {bytes rest : Bytes} {value : α}
      (hfirst : a.read bytes = .ok (value, rest)) (h : Broken b rest) : Broken (seq a b) bytes
  /-- What stands for a value is broken. -/
  | via {α β : Type} {layout : Layout α} {forth : α → β} {back : β → α} {bytes : Bytes}
      (h : Broken layout bytes) : Broken (layout.via forth back) bytes

/-- Broken bytes are refused. -/
theorem Broken.exists_fault {layout : Layout α} (h : layout.Broken bytes) :
    ∃ fault, layout.read bytes = .error fault := by
  induction h with
  | @flag byte rest hzero hone =>
    refine ⟨.flag byte, ?_⟩
    change (if byte = 0 then _ else if byte = 1 then _ else _) = _
    rw [if_neg hzero, if_neg hone]
  | @presence _ _ byte rest hzero hone =>
    refine ⟨.presence byte, ?_⟩
    change (if byte = 0 then _ else if byte = 1 then _ else _) = _
    rw [if_neg hzero, if_neg hone]
  | textEnd hlength hend =>
    refine ⟨.truncated, ?_⟩
    change (u32.read _ >>= _) = _
    rw [hlength]
    change (takeBytes _ _ >>= _) = _
    rw [takeBytes_of_lt hend]
    rfl
  | @textForm bytes content rest length hlength hcontent hform =>
    cases hread : text.read bytes with
    | error fault => exact ⟨fault, rfl⟩
    | ok result =>
      -- Whatever is read would be the text of exactly these bytes, and there is none.
      obtain ⟨value, after⟩ := result
      obtain ⟨found, later, taken, hfound, htaken, hvalue⟩ := read_text_eq_ok_iff.mp hread
      rw [hlength] at hfound
      cases hfound
      have hbytes : takeBytes length.toNat (content ++ rest) = .ok (⟨content, hcontent⟩, rest) :=
        takeBytes_append ⟨content, hcontent⟩ rest
      rw [hbytes] at htaken
      cases htaken
      exact absurd hvalue (hform value)
  | field _ ih =>
    obtain ⟨fault, hfault⟩ := ih
    refine ⟨fault, ?_⟩
    change Except.map _ _ = _
    rw [hfault]
    rfl
  | first _ ih =>
    obtain ⟨fault, hfault⟩ := ih
    refine ⟨fault, ?_⟩
    change (Layout.read _ _ >>= _) = _
    rw [hfault]
    rfl
  | second hfirst _ ih =>
    obtain ⟨fault, hfault⟩ := ih
    refine ⟨fault, ?_⟩
    change (Layout.read _ _ >>= _) = _
    rw [hfirst]
    change (Layout.read _ _ >>= _) = _
    rw [hfault]
    rfl
  | via _ ih =>
    obtain ⟨fault, hfault⟩ := ih
    refine ⟨fault, ?_⟩
    change Except.map _ _ = _
    rw [hfault]
    rfl

/-! ## Arguments of instructions -/

private theorem canonical_setUp : setUp.Canonical :=
  canonical_via (canonical_seq canonical_key (canonical_seq canonical_u64
    (canonical_seq canonical_u64 canonical_u64))) fun _ => rfl

private theorem canonical_update : update.Canonical := by
  have hkey := canonical_optional canonical_key
  have hnumber := canonical_optional canonical_u64
  have hflag := canonical_optional canonical_flag
  refine canonical_via ?_ fun _ => rfl
  refine canonical_seq hkey (canonical_seq hkey ?_)
  refine canonical_seq hnumber (canonical_seq hnumber (canonical_seq hnumber ?_))
  refine canonical_seq hkey (canonical_seq hkey (canonical_seq hkey ?_))
  exact canonical_seq hflag hflag

private theorem canonical_start : start.Canonical :=
  canonical_via (canonical_seq canonical_u64 (canonical_seq canonical_text
    (canonical_seq canonical_text canonical_text))) fun _ => rfl

/-- Values of a kind and the bytes of a layout stand for each other. -/
structure Exact (layout : Layout α) (kind : α → Prop) : Prop where
  /-- A value is read back from its bytes, and exactly what follows them is handed on. -/
  reads : ∀ value, kind value → ∀ rest,
    layout.read (layout.write value ++ rest) = .ok (value, rest)
  /-- Only the bytes of a value are read as it. -/
  writes : ∀ bytes value rest, layout.read bytes = .ok (value, rest) →
    bytes = layout.write value ++ rest
  /-- Broken bytes are refused. -/
  refuses : ∀ bytes, layout.Broken bytes → ∃ fault, layout.read bytes = .error fault
  /-- Of two values neither is written as the beginning of the other. -/
  apart : ∀ value other, kind value → kind other → value ≠ other →
    ¬ layout.write value <+: layout.write other

/-- Values that are read back, and only from their own bytes, stand for these bytes. -/
private theorem exact_of_canonical {layout : Layout α} {kind : α → Prop}
    (hreads : ∀ value, kind value → layout.ReadsBack value) (hcanonical : layout.Canonical) :
    layout.Exact kind where
  reads := hreads
  writes := hcanonical
  refuses _ hbroken := hbroken.exists_fault
  apart value other hvalue hother hne hbegins :=
    hne ((hreads value hvalue).eq_of_begins (hreads other hother) hbegins)

end Layout

/-- Four bytes hold the number of the bytes of each text. -/
def StartArguments.Short (args : StartArguments) : Prop :=
  ∀ text ∈ [args.tokenName, args.tokenSymbol, args.tokenUri],
    (Text.utf8 text).length < UInt32.size

namespace Layout

/-- The arguments that set the program up, those that change its configuration, and those that open
trading with texts whose lengths can be written, stand for their bytes. -/
theorem arguments_exact :
    setUp.Exact (fun _ => True) ∧ update.Exact (fun _ => True) ∧
      start.Exact StartArguments.Short := by
  refine ⟨exact_of_canonical (fun args _ => readsBack_setUp args) canonical_setUp,
    exact_of_canonical (fun args _ => readsBack_update args) canonical_update,
    exact_of_canonical (fun args hshort => ?_) canonical_start⟩
  have hname := hshort args.tokenName (by simp)
  have hsymbol := hshort args.tokenSymbol (by simp)
  have huri := hshort args.tokenUri (by simp)
  exact readsBack_start hname hsymbol huri

end Layout

end LendingClient
