import LendingClient.Instruction.Arguments
import LendingClient.Proofs.Except

/-!
# Layouts read back what they write

A value is read back from the bytes that were written for it, whatever follows them, and what follows
is handed on as it is. So the fields of a record are read back one after the other, and from the data
of an instruction its arguments can be told exactly.
-/

namespace LendingClient

namespace Layout

variable {α β : Type}

/-- A value is read back from its bytes, and what follows them is handed on. -/
def ReadsBack (layout : Layout α) (value : α) : Prop :=
  ∀ rest, layout.read (layout.write value ++ rest) = .ok (value, rest)

/-- Nothing follows the bytes of a value that is read back. -/
theorem ReadsBack.read_write {layout : Layout α} {value : α} (h : layout.ReadsBack value) :
    layout.read (layout.write value) = .ok (value, []) := by
  have hread := h []
  rwa [List.append_nil] at hread

/-- As many bytes are taken as are asked for, and the others are left. -/
theorem takeBytes_append {count : Nat} (front : Octets count) (rest : Bytes) :
    takeBytes count (front.bytes ++ rest) = .ok (front, rest) := by
  obtain ⟨bytes, rfl⟩ := front
  have hlength : bytes.length ≤ (bytes ++ rest).length := by simp
  rw [takeBytes, dif_pos hlength]
  simp

private theorem readsBack_octets {count : Nat} (value : Octets count) :
    (octets count).ReadsBack value :=
  takeBytes_append value

/-- Every key is read back. -/
theorem readsBack_key (value : Key) : key.ReadsBack value :=
  readsBack_octets value

private theorem readsBack_u32 (value : UInt32) : u32.ReadsBack value := by
  intro rest
  have hbytes : (littleEndian 4 value.toNat).length = 4 := length_littleEndian 4 _
  have hnumber : ofLittleEndian (littleEndian 4 value.toNat) = value.toNat :=
    ofLittleEndian_littleEndian value.toNat_lt
  simp only [u32]
  rw [takeBytes_append ⟨_, hbytes⟩ rest]
  simp [Except.map, hnumber]

/-- Every number of 64 bits is read back. -/
theorem readsBack_u64 (value : UInt64) : u64.ReadsBack value := by
  intro rest
  have hbytes : (littleEndian 8 value.toNat).length = 8 := length_littleEndian 8 _
  have hnumber : ofLittleEndian (littleEndian 8 value.toNat) = value.toNat :=
    ofLittleEndian_littleEndian value.toNat_lt
  simp only [u64]
  rw [takeBytes_append ⟨_, hbytes⟩ rest]
  simp [Except.map, hnumber]

/-- Either value of a flag is read back. -/
theorem readsBack_flag (value : Bool) : flag.ReadsBack value := by
  intro rest
  cases value <;> rfl

/-- A text is read back if four bytes hold the number of its own. -/
theorem readsBack_text {value : String} (h : (Text.utf8 value).length < UInt32.size) :
    text.ReadsBack value := by
  intro rest
  have hlength : (UInt32.ofNat (Text.utf8 value).length).toNat = (Text.utf8 value).length :=
    UInt32.toNat_ofNat_of_lt' h
  change (u32.read (u32.write (UInt32.ofNat (Text.utf8 value).length) ++ Text.utf8 value ++ rest) >>=
    _) = _
  rw [List.append_assoc, readsBack_u32]
  change (takeBytes (UInt32.ofNat (Text.utf8 value).length).toNat
    (Text.utf8 value ++ rest) >>= _) = _
  have hvalue : Text.ofUtf8 (Text.utf8 value) = .ok value := Text.ofUtf8_eq_ok_iff.mpr rfl
  rw [takeBytes_append ⟨Text.utf8 value, hlength.symm⟩ rest]
  dsimp only [Bind.bind, Except.bind]
  rw [hvalue]

/-- That there is no value is read back. -/
theorem readsBack_none {field : Layout α} : (optional field).ReadsBack none :=
  fun _ => rfl

/-- An optional value is read back if the value is. -/
theorem readsBack_some {field : Layout α} {value : α} (h : field.ReadsBack value) :
    (optional field).ReadsBack (some value) := by
  intro rest
  change (field.read (field.write value ++ rest)).map _ = _
  rw [h rest]
  rfl

/-- An optional field is read back if its value is, when there is one. -/
theorem readsBack_optional {field : Layout α} (h : ∀ value, field.ReadsBack value)
    (value : Option α) : (optional field).ReadsBack value := by
  cases value with
  | none => exact readsBack_none
  | some value => exact readsBack_some (h value)

/-- Two values, one behind the other, are read back if both of them are. -/
theorem readsBack_seq {first : Layout α} {second : Layout β} {a : α} {b : β}
    (hfirst : first.ReadsBack a) (hsecond : second.ReadsBack b) :
    (seq first second).ReadsBack (a, b) := by
  intro rest
  change (first.read (first.write a ++ second.write b ++ rest) >>= _) = _
  rw [List.append_assoc, hfirst]
  change (second.read (second.write b ++ rest) >>= _) = _
  rw [hsecond]
  rfl

/-- A value in another shape is read back, as long as the change of shape can be undone. -/
theorem readsBack_via {layout : Layout α} {forth : α → β} {back : β → α} {value : β}
    (h : layout.ReadsBack (back value)) (hvalue : forth (back value) = value) :
    (layout.via forth back).ReadsBack value := by
  intro rest
  change (layout.read (layout.write (back value) ++ rest)).map _ = _
  rw [h rest]
  exact congrArg (fun value => Except.ok (value, rest)) hvalue

/-! ## Arguments of instructions -/

/-- The arguments of setting up are read back. -/
theorem readsBack_setUp (args : SetUpArguments) : setUp.ReadsBack args :=
  readsBack_via (readsBack_seq (readsBack_key _) (readsBack_seq (readsBack_u64 _)
    (readsBack_seq (readsBack_u64 _) (readsBack_u64 _)))) rfl

/-- The arguments of a change to the configuration are read back, whatever is left out. -/
theorem readsBack_update (args : UpdateArguments) : update.ReadsBack args := by
  have hkey := readsBack_optional readsBack_key
  have hnumber := readsBack_optional readsBack_u64
  have hflag := readsBack_optional readsBack_flag
  refine readsBack_via ?_ rfl
  refine readsBack_seq (hkey _) (readsBack_seq (hkey _) ?_)
  refine readsBack_seq (hnumber _) (readsBack_seq (hnumber _) (readsBack_seq (hnumber _) ?_))
  refine readsBack_seq (hkey _) (readsBack_seq (hkey _) (readsBack_seq (hkey _) ?_))
  exact readsBack_seq (hflag _) (hflag _)

/-- What trading is opened with is read back if its texts are not too long. -/
theorem readsBack_start {args : StartArguments}
    (hname : (Text.utf8 args.tokenName).length < UInt32.size)
    (hsymbol : (Text.utf8 args.tokenSymbol).length < UInt32.size)
    (huri : (Text.utf8 args.tokenUri).length < UInt32.size) : start.ReadsBack args :=
  readsBack_via (readsBack_seq (readsBack_u64 _) (readsBack_seq (readsBack_text hname)
    (readsBack_seq (readsBack_text hsymbol) (readsBack_text huri)))) rfl

/-- An amount is read back. -/
theorem readsBack_amount (units : UInt64) : amount.ReadsBack units :=
  readsBack_u64 units

/-- Days and an amount are read back. -/
theorem readsBack_daysAmount (days units : UInt64) : daysAmount.ReadsBack (days, units) :=
  readsBack_seq (readsBack_u64 days) (readsBack_u64 units)

/-- A referral and an amount are read back. -/
theorem readsBack_referralAmount (referral : Key) (units : UInt64) :
    referralAmount.ReadsBack (referral, units) :=
  readsBack_seq (readsBack_key referral) (readsBack_u64 units)

end Layout

end LendingClient
