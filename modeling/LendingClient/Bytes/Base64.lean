import LendingClient.Bytes.Endian

/-!
# Base-64 text

Three bytes are written as four digits of six bits. A last group of one or two bytes is filled up
with zero bits and with `=` signs. Reading accepts only what writing produces: the signs must be
there, and the filling bits must be zero.
-/

namespace LendingClient.Base64

/-- The digit of a value below sixty-four. -/
def digit (value : Nat) : Char :=
  Char.ofNat <|
    if value < 26 then 65 + value
    else if value < 52 then 71 + value
    else if value < 62 then value - 4
    else if value = 62 then 43
    else 47

/-- The value of a digit. -/
def digitValue? (c : Char) : Option Nat :=
  if 'A' ≤ c ∧ c ≤ 'Z' then some (c.toNat - 65)
  else if 'a' ≤ c ∧ c ≤ 'z' then some (c.toNat - 71)
  else if '0' ≤ c ∧ c ≤ '9' then some (c.toNat + 4)
  else if c = '+' then some 62
  else if c = '/' then some 63
  else none

/-- The digits of a byte string, group by group. -/
def encodeChars : Bytes → List Char
  | [] => []
  | [a] =>
    let value := a.toNat * 16
    [digit (value / 64), digit (value % 64), '=', '=']
  | [a, b] =>
    let value := (a.toNat * 256 + b.toNat) * 4
    [digit (value / 4096), digit (value / 64 % 64), digit (value % 64), '=']
  | a :: b :: c :: rest =>
    let value := (a.toNat * 256 + b.toNat) * 256 + c.toNat
    digit (value / 262144) :: digit (value / 4096 % 64) :: digit (value / 64 % 64) ::
      digit (value % 64) :: encodeChars rest

/-- The byte string that groups of four digits stand for. -/
def decodeChars : List Char → Option Bytes
  | [] => some []
  | [w, x, '=', '='] => do
    let value := 64 * (← digitValue? w) + (← digitValue? x)
    guard (value % 16 = 0)
    return bigEndian 1 (value / 16)
  | [w, x, y, '='] => do
    let value := 4096 * (← digitValue? w) + 64 * (← digitValue? x) + (← digitValue? y)
    guard (value % 4 = 0)
    return bigEndian 2 (value / 4)
  | w :: x :: y :: z :: rest => do
    let value := 262144 * (← digitValue? w) + 4096 * (← digitValue? x) +
      64 * (← digitValue? y) + (← digitValue? z)
    return bigEndian 3 value ++ (← decodeChars rest)
  | _ => none

/-- Base-64 text of a byte string. -/
def encode (bytes : Bytes) : String :=
  String.ofList (encodeChars bytes)

/-- The byte string that a base-64 text stands for. -/
def decode? (text : String) : Option Bytes :=
  decodeChars text.toList

end LendingClient.Base64
