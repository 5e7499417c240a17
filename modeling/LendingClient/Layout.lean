import LendingClient.Bytes.Endian
import LendingClient.Key
import LendingClient.Text.Utf8

/-!
# Byte layouts

The program stores its accounts, and takes its arguments, as fields one after the other: numbers in
little-endian bytes, keys as they are, a flag as one byte, a text behind its length, an optional
field behind a flag. A `Layout` writes a value and reads it back, handing on what it did not need;
layouts of whole records are put together from those of their fields.
-/

namespace LendingClient

/-- Why bytes cannot be read in a layout. -/
inductive LayoutFault where
  /-- The bytes end too early. -/
  | truncated
  /-- A flag that is neither zero nor one. -/
  | flag (byte : UInt8)
  /-- An optional field's flag that is neither zero nor one. -/
  | presence (byte : UInt8)
  /-- A text that is no UTF-8. -/
  | text (fault : Text.Utf8Fault)
deriving DecidableEq

/-- The fault in words. -/
def LayoutFault.message : LayoutFault → String
  | .truncated => "Unexpected length of input"
  | .flag byte => s!"Invalid bool representation: {byte}"
  | .presence byte =>
    s!"Invalid Option representation: {byte}. The first byte must be 0 or 1"
  | .text fault => fault.message

/-- Reads a value from the front of a byte string and hands on the rest. -/
abbrev Reading (α : Type) := Bytes → Except LayoutFault (α × Bytes)

/-- A way to write values as bytes and to read them back. -/
structure Layout (α : Type) where
  /-- The bytes of a value. -/
  write : α → Bytes
  /-- The value at the front of a byte string, and what follows it. -/
  read : Reading α

namespace Layout

variable {α β : Type}

/-- Cuts `count` bytes off the front. -/
def takeBytes (count : Nat) (bytes : Bytes) : Except LayoutFault (Octets count × Bytes) :=
  if h : count ≤ bytes.length then
    .ok (⟨bytes.take count, by simp [h]⟩, bytes.drop count)
  else .error .truncated

/-- A byte string of known length, as it is. -/
def octets (count : Nat) : Layout (Octets count) where
  write value := value.bytes
  read := takeBytes count

/-- A key, as it is. -/
def key : Layout Key := octets 32

/-- A number of 32 bits in four bytes. -/
def u32 : Layout UInt32 where
  write value := littleEndian 4 value.toNat
  read bytes := (takeBytes 4 bytes).map fun (value, rest) =>
    (UInt32.ofNat (ofLittleEndian value.bytes), rest)

/-- A number of 64 bits in eight bytes. -/
def u64 : Layout UInt64 where
  write value := littleEndian 8 value.toNat
  read bytes := (takeBytes 8 bytes).map fun (value, rest) =>
    (UInt64.ofNat (ofLittleEndian value.bytes), rest)

/-- A signed number of 64 bits in eight bytes. -/
def i64 : Layout Int64 where
  write value := u64.write value.toUInt64
  read bytes := (u64.read bytes).map fun (value, rest) => (value.toInt64, rest)

/-- A flag in one byte. -/
def flag : Layout Bool where
  write value := [if value then 1 else 0]
  read
    | [] => .error .truncated
    | byte :: rest =>
      if byte = 0 then .ok (false, rest)
      else if byte = 1 then .ok (true, rest)
      else .error (.flag byte)

/-- A text as the number of its UTF-8 bytes, in four bytes, and the bytes. -/
def text : Layout String where
  write value :=
    let bytes := Text.utf8 value
    u32.write (UInt32.ofNat bytes.length) ++ bytes
  read bytes := do
    let (length, rest) ← u32.read bytes
    let (content, rest) ← takeBytes length.toNat rest
    match Text.ofUtf8 content.bytes with
    | .ok value => .ok (value, rest)
    | .error fault => .error (.text fault)

/-- A field that may be missing: a flag, and the field if there is one. -/
def optional (field : Layout α) : Layout (Option α) where
  write
    | none => [0]
    | some value => 1 :: field.write value
  read
    | [] => .error .truncated
    | byte :: rest =>
      if byte = 0 then .ok (none, rest)
      else if byte = 1 then (field.read rest).map fun (value, rest) => (some value, rest)
      else .error (.presence byte)

/-- Nothing at all. -/
def unit : Layout Unit where
  write _ := []
  read bytes := .ok ((), bytes)

/-- One field after the other. -/
def seq (first : Layout α) (second : Layout β) : Layout (α × β) where
  write value := first.write value.1 ++ second.write value.2
  read bytes := do
    let (a, rest) ← first.read bytes
    let (b, rest) ← second.read rest
    return ((a, b), rest)

/-- The layout of another type whose values stand for those of the first. -/
def via (layout : Layout α) (forth : α → β) (back : β → α) : Layout β where
  write value := layout.write (back value)
  read bytes := (layout.read bytes).map fun (value, rest) => (forth value, rest)

end Layout

end LendingClient
