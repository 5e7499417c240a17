import LendingClient.Bytes.Basic

/-!
# Text as UTF-8

Texts are written as UTF-8. Bytes that are no UTF-8 are refused with the place where they stop being
it: the index of the first bad sequence, and how many bytes of it could have begun a character. A
sequence that the end of the input cuts off has no such count.
-/

namespace LendingClient.Text

/-- Where bytes stop being UTF-8. -/
structure Utf8Fault where
  /-- The number of bytes that are well formed. -/
  validUpTo : Nat
  /-- The length of the bad sequence, none when the input ends inside a character. -/
  length : Option Nat
deriving DecidableEq

/-- The fault in words. -/
def Utf8Fault.message (fault : Utf8Fault) : String :=
  match fault.length with
  | some length =>
    s!"invalid utf-8 sequence of {length} bytes from index {fault.validUpTo}"
  | none => s!"incomplete utf-8 byte sequence from index {fault.validUpTo}"

/-- The UTF-8 bytes of a text. -/
def utf8 (text : String) : Bytes :=
  text.toUTF8.data.toList

/-- A byte that continues a character. -/
def isContinuation (byte : UInt8) : Bool :=
  0x80 ≤ byte && byte ≤ 0xbf

/-- The second bytes that may follow a first byte; none for a byte that begins no longer
character. The narrower intervals exclude overlong forms, surrogates and numbers past the last code
point. -/
def secondByteRange (first : UInt8) : Option (UInt8 × UInt8) :=
  if 0xc2 ≤ first && first ≤ 0xdf then some (0x80, 0xbf)
  else if first = 0xe0 then some (0xa0, 0xbf)
  else if first = 0xed then some (0x80, 0x9f)
  else if 0xe1 ≤ first && first ≤ 0xef then some (0x80, 0xbf)
  else if first = 0xf0 then some (0x90, 0xbf)
  else if first = 0xf4 then some (0x80, 0x8f)
  else if 0xf1 ≤ first && first ≤ 0xf3 then some (0x80, 0xbf)
  else none

/-- How many continuation bytes come after the second byte. -/
def bytesAfterSecond (first : UInt8) : Nat :=
  if first < 0xe0 then 0 else if first < 0xf0 then 1 else 2

/-- Reads `missing` continuation bytes; `read` bytes of the character came before. The answer is
how long the bad sequence is, or what follows the character. -/
def skipContinuation : (missing read : Nat) → Bytes → Except (Option Nat) Bytes
  | 0, _, rest => .ok rest
  | _ + 1, _, [] => .error none
  | missing + 1, read, byte :: rest =>
    if isContinuation byte then skipContinuation missing (read + 1) rest else .error (some read)

/-- Reads one character: what follows it, or how long the bad sequence is. -/
def skipCharacter (first : UInt8) (rest : Bytes) : Except (Option Nat) Bytes :=
  if first < 0x80 then .ok rest
  else match secondByteRange first, rest with
    | none, _ => .error (some 1)
    | some _, [] => .error none
    | some (low, high), second :: rest =>
      if low ≤ second && second ≤ high then skipContinuation (bytesAfterSecond first) 2 rest
      else .error (some 1)

/-- The first place where bytes stop being UTF-8, if there is one. `limit` bounds the number of
characters and `index` counts the bytes before. -/
def firstFault : (limit index : Nat) → Bytes → Option Utf8Fault
  | 0, _, _ => none
  | _ + 1, _, [] => none
  | limit + 1, index, first :: rest =>
    match skipCharacter first rest with
    | .error length => some ⟨index, length⟩
    | .ok after => firstFault limit (index + (rest.length + 1 - after.length)) after

/-- The text that UTF-8 bytes stand for. -/
def ofUtf8 (bytes : Bytes) : Except Utf8Fault String :=
  match String.fromUTF8? ⟨bytes.toArray⟩ with
  | some text => .ok text
  | none => .error ((firstFault bytes.length 0 bytes).getD ⟨0, none⟩)

/-- Bytes are read as a text exactly when they are its UTF-8 bytes. -/
theorem ofUtf8_eq_ok_iff {bytes : Bytes} {text : String} :
    ofUtf8 bytes = .ok text ↔ utf8 text = bytes := by
  unfold ofUtf8 utf8
  constructor
  · intro h
    split at h
    · rename_i read hread
      cases h
      unfold String.fromUTF8? at hread
      split at hread
      · cases hread
        rfl
      · cases hread
    · cases h
  · rintro rfl
    have hbytes : (⟨text.toUTF8.data.toList.toArray⟩ : ByteArray) = text.toUTF8 := rfl
    have hread : String.fromUTF8? text.toUTF8 = some text := dif_pos text.isValidUTF8
    rw [hbytes, hread]

end LendingClient.Text
