import LendingClient.Bytes.Endian

/-!
# Base-58 text

Keys, signatures and block hashes are shown in base 58: the bytes are read as one big-endian number
and written with fifty-eight letters and digits that are hard to confuse. Leading zero bytes, which
the number does not keep, are written as one leading `1` each.
-/

namespace LendingClient.Base58

/-- The digits in order of their value; `0`, `O`, `I` and `l` are left out. -/
def alphabet : List Char :=
  ['1', '2', '3', '4', '5', '6', '7', '8', '9',
   'A', 'B', 'C', 'D', 'E', 'F', 'G', 'H', 'J', 'K', 'L', 'M', 'N', 'P', 'Q', 'R', 'S', 'T', 'U',
   'V', 'W', 'X', 'Y', 'Z',
   'a', 'b', 'c', 'd', 'e', 'f', 'g', 'h', 'i', 'j', 'k', 'm', 'n', 'o', 'p', 'q', 'r', 's', 't',
   'u', 'v', 'w', 'x', 'y', 'z']

/-- The digits of a number in a base, the lowest first and none for zero. At most `limit` digits
are written. -/
def digits (base : Nat) : (limit : Nat) → Nat → List Nat
  | 0, _ => []
  | limit + 1, value =>
    if value = 0 then [] else value % base :: digits base limit (value / base)

/-- Base-58 digits of a byte string. Each byte needs fewer than two of them. -/
def encodeChars (bytes : Bytes) : List Char :=
  let zeros := bytes.takeWhile (· == 0)
  let value := ofBigEndian bytes
  zeros.map (fun _ => '1') ++
    ((digits 58 (2 * bytes.length) value).map fun d => alphabet.getD d '1').reverse

/-- The number that base-58 digits stand for, the highest first. -/
def value? (chars : List Char) : Option Nat :=
  chars.foldlM (fun value c => (alphabet.idxOf? c).map (58 * value + ·)) 0

/-- The byte string that base-58 digits stand for. -/
def decodeChars (chars : List Char) : Option Bytes :=
  (value? chars).map fun value =>
    (chars.takeWhile (· == '1')).map (fun _ => 0) ++
      ((digits 256 chars.length value).map UInt8.ofNat).reverse

/-- Base-58 text of a byte string. -/
def encode (bytes : Bytes) : String :=
  String.ofList (encodeChars bytes)

/-- The byte string that a base-58 text stands for. -/
def decode? (text : String) : Option Bytes :=
  decodeChars text.toList

end LendingClient.Base58
