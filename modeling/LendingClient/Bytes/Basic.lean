/-!
# Byte strings

Byte strings are lists of bytes, so that definitions take them apart by recursion. A byte string of
a known length is `Octets n`: keys, block hashes and digests have 32 bytes, signatures 64.
-/

namespace LendingClient

/-- A byte string. -/
abbrev Bytes := List UInt8

/-- A byte string of exactly `n` bytes. -/
structure Octets (n : Nat) where
  /-- The bytes themselves. -/
  bytes : Bytes
  /-- There are `n` of them. -/
  length_bytes : bytes.length = n
deriving DecidableEq

namespace Octets

/-- A byte string as one of length `n`, if it has that length. -/
def ofBytes? (n : Nat) (bytes : Bytes) : Option (Octets n) :=
  if h : bytes.length = n then some ⟨bytes, h⟩ else none

/-- The same byte `n` times. -/
def filled (n : Nat) (byte : UInt8) : Octets n :=
  ⟨List.replicate n byte, List.length_replicate⟩

/-- Two strings of one length are equal when their bytes are. -/
theorem ext_bytes {n : Nat} {a b : Octets n} (h : a.bytes = b.bytes) : a = b := by
  cases a
  cases b
  simp_all

/-- Reading back the bytes of a string of length `n` gives the string. -/
@[simp] theorem ofBytes?_bytes {n : Nat} (a : Octets n) : ofBytes? n a.bytes = some a := by
  simp [ofBytes?, a.length_bytes]

/-- Only a string with the very same bytes is read from them. -/
theorem ofBytes?_eq_some_iff {n : Nat} {bytes : Bytes} {a : Octets n} :
    ofBytes? n bytes = some a ↔ a.bytes = bytes := by
  constructor
  · intro h
    unfold ofBytes? at h
    split at h
    · exact (Option.some.inj h) ▸ rfl
    · cases h
  · rintro rfl
    exact ofBytes?_bytes a

end Octets

/-- The pieces of `size` bytes that a string falls into, the last one possibly shorter. -/
def Bytes.pieces (size : Nat) (bytes : Bytes) : List Bytes :=
  go bytes.length bytes
where
  /-- Cuts off one piece at a time; a string has no more pieces than bytes. -/
  go : Nat → Bytes → List Bytes
    | 0, _ => []
    | _ + 1, [] => []
    | pieces + 1, rest => rest.take size :: go pieces (rest.drop size)

end LendingClient
