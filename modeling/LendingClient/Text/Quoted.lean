import LendingClient.Text.Unmarked

/-!
# Quoted text

Messages show a caller's text between double quotes. A quote and a backslash inside it get a
backslash, the usual controls their short names, and every other character without a mark of its own
is spelled out by its number in hexadecimal.
-/

namespace LendingClient.Text

/-- Lower-case hexadecimal digits of a number, without leading zeros. -/
def hexDigits (value : Nat) : List Char :=
  Nat.toDigits 16 value

/-- How a character is shown inside quotes. -/
def quoteChar (c : Char) : List Char :=
  if c = '\x00' then ['\\', '0']
  else if c = '\t' then ['\\', 't']
  else if c = '\r' then ['\\', 'r']
  else if c = '\n' then ['\\', 'n']
  else if c = '"' then ['\\', '"']
  else if c = '\\' then ['\\', '\\']
  else if ' ' ≤ c ∧ c ≤ '~' then [c]
  else if isUnmarked c then ['\\', 'u', '\x7b'] ++ hexDigits c.toNat ++ ['\x7d']
  else [c]

/-- A text between double quotes. -/
def quote (text : String) : String :=
  String.ofList ('"' :: text.toList.flatMap quoteChar ++ ['"'])

end LendingClient.Text
