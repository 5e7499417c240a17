/-!
# Blank characters

The Unicode property White_Space, and cutting its characters off both ends of a text.
-/

namespace LendingClient.Text

/-- A character with the Unicode property White_Space. -/
def isBlank (c : Char) : Bool :=
  let n := c.toNat
  (9 ≤ n && n ≤ 13) || n == 0x20 || n == 0x85 || n == 0xa0 || n == 0x1680 ||
    (0x2000 ≤ n && n ≤ 0x200a) || n == 0x2028 || n == 0x2029 || n == 0x202f || n == 0x205f ||
    n == 0x3000

/-- Characters without the blank ones at the start. -/
def trimStart (chars : List Char) : List Char :=
  chars.dropWhile isBlank

/-- Characters without the blank ones at the end. -/
def trimEnd (chars : List Char) : List Char :=
  (trimStart chars.reverse).reverse

/-- Characters without the blank ones at either end. -/
def trim (chars : List Char) : List Char :=
  trimEnd (trimStart chars)

end LendingClient.Text
