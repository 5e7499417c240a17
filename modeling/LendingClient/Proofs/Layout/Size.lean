import LendingClient.Instruction.Arguments
import LendingClient.Proofs.Text.Utf8

/-!
# How long arguments get

All fields but texts have a length that nothing is longer than, and so have the arguments that are
put together from them. Texts take a count of four bytes besides their own.
-/

namespace LendingClient

namespace Layout

variable {α β : Type} {count other : Nat}

/-- No value is written in more bytes than that. -/
def AtMost (layout : Layout α) (count : Nat) : Prop :=
  ∀ value, (layout.write value).length ≤ count

/-- A key takes 32 bytes. -/
theorem atMost_key : key.AtMost 32 :=
  fun value => Nat.le_of_eq value.length_bytes

/-- A number of 64 bits takes eight bytes. -/
theorem atMost_u64 : u64.AtMost 8 :=
  fun value => Nat.le_of_eq (length_littleEndian 8 value.toNat)

/-- A flag takes one byte. -/
theorem atMost_flag : flag.AtMost 1 :=
  fun _ => Nat.le_refl 1

/-- No arguments take no bytes. -/
theorem atMost_unit : unit.AtMost 0 :=
  fun _ => Nat.le_refl 0

/-- That a value may be missing takes one more byte. -/
theorem atMost_optional {field : Layout α} (h : field.AtMost count) :
    (optional field).AtMost (count + 1) := by
  intro value
  cases value with
  | none => exact Nat.le_add_left 1 count
  | some value => exact Nat.succ_le_succ (h value)

/-- Two values, one behind the other, take what each of them takes. -/
theorem atMost_seq {first : Layout α} {second : Layout β} (hfirst : first.AtMost count)
    (hsecond : second.AtMost other) : (seq first second).AtMost (count + other) := by
  intro value
  have hparts : ((seq first second).write value).length =
      (first.write value.1).length + (second.write value.2).length := List.length_append
  have hbegin := hfirst value.1
  have hend := hsecond value.2
  omega

/-- The shape of a value makes no difference to its bytes. -/
theorem atMost_via {layout : Layout α} {forth : α → β} {back : β → α} (h : layout.AtMost count) :
    (layout.via forth back).AtMost count :=
  fun value => h (back value)

/-- The arguments of setting up take at most 56 bytes. -/
theorem atMost_setUp : setUp.AtMost 56 :=
  atMost_via <| atMost_seq atMost_key <| atMost_seq atMost_u64 <| atMost_seq atMost_u64 atMost_u64

/-- The arguments of a change to the configuration take at most 196 bytes. -/
theorem atMost_update : update.AtMost 196 :=
  have hkey := atMost_optional atMost_key
  have hu64 := atMost_optional atMost_u64
  have hflag := atMost_optional atMost_flag
  atMost_via <| atMost_seq hkey <| atMost_seq hkey <| atMost_seq hu64 <| atMost_seq hu64 <|
    atMost_seq hu64 <| atMost_seq hkey <| atMost_seq hkey <| atMost_seq hkey <|
    atMost_seq hflag hflag

/-- An amount takes eight bytes. -/
theorem atMost_amount : amount.AtMost 8 :=
  atMost_u64

/-- Days and an amount take 16 bytes. -/
theorem atMost_daysAmount : daysAmount.AtMost 16 :=
  atMost_seq atMost_u64 atMost_u64

/-- A referral and an amount take 40 bytes. -/
theorem atMost_referralAmount : referralAmount.AtMost 40 :=
  atMost_seq atMost_key atMost_u64

/-- A text takes four bytes more than it has itself. -/
theorem length_write_text (value : String) : (text.write value).length = 4 + value.utf8ByteSize := by
  have hcount := length_littleEndian 4 (UInt32.ofNat (Text.utf8 value).length).toNat
  change (littleEndian 4 _ ++ Text.utf8 value).length = _
  rw [List.length_append, hcount, Text.length_utf8]

/-- The arguments of opening trading take 20 bytes more than the texts have themselves. -/
theorem length_write_start (args : StartArguments) :
    (start.write args).length = 20 + args.tokenName.utf8ByteSize + args.tokenSymbol.utf8ByteSize +
      args.tokenUri.utf8ByteSize := by
  have hamount : (u64.write args.quoteAmount).length = 8 := length_littleEndian 8 _
  change (u64.write args.quoteAmount ++ (text.write args.tokenName ++
    (text.write args.tokenSymbol ++ text.write args.tokenUri))).length = _
  simp only [List.length_append, length_write_text, hamount]
  omega

end Layout

namespace InstructionKind

variable {α : Type} {layout : Layout α} {count : Nat}

/-- An instruction's data has eight bytes more than its arguments. -/
theorem length_encode (kind : InstructionKind) (args : α) :
    (kind.encode layout args).length = 8 + (layout.write args).length := by
  have htag : kind.tag.length = 8 := length_discriminator _ _
  rw [encode, List.length_append, htag]

/-- An instruction's data is eight bytes longer than its arguments at most. -/
theorem length_encode_le (h : layout.AtMost count) (kind : InstructionKind) (args : α) :
    (kind.encode layout args).length ≤ 8 + count := by
  have hargs := h args
  rw [length_encode]
  omega

end InstructionKind

end LendingClient
