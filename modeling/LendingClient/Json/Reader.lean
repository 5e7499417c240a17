import LendingClient.Json.Basic

/-!
# Reading JSON text

A text is read as one value with nothing but blanks around it. What is no JSON is refused without a
reason, since nobody gets to see it.
-/

namespace LendingClient.Json

/-- A character that may stand between the parts of a value. -/
def isSpace (c : Char) : Bool :=
  c = ' ' || c = '\n' || c = '\r' || c = '\t'

/-- The value of a hexadecimal digit. -/
def hexValue? (c : Char) : Option Nat :=
  if '0' ≤ c ∧ c ≤ '9' then some (c.toNat - 48)
  else if 'a' ≤ c ∧ c ≤ 'f' then some (c.toNat - 87)
  else if 'A' ≤ c ∧ c ≤ 'F' then some (c.toNat - 55)
  else none

/-- The number that four hexadecimal digits stand for. -/
def hexNumber? (a b c d : Char) : Option Nat := do
  return ((← hexValue? a) * 16 + (← hexValue? b)) * 256 + (← hexValue? c) * 16 + (← hexValue? d)

/-- The character of a number that is no half of a pair. -/
def wholeCharacter? (number : Nat) : Option Char :=
  if number.isValidChar then some (Char.ofNat number) else none

/-- The character that two halves of a pair stand for. -/
def pairedCharacter? (high low : Nat) : Option Char :=
  if 0xd800 ≤ high ∧ high < 0xdc00 ∧ 0xdc00 ≤ low ∧ low < 0xe000 then
    some (Char.ofNat (0x10000 + (high - 0xd800) * 1024 + (low - 0xdc00)))
  else none

/-- The character of an escape in one letter. -/
def escaped? (c : Char) : Option Char :=
  if c = '"' ∨ c = '\\' ∨ c = '/' then some c
  else if c = 'n' then some '\n'
  else if c = 'r' then some '\r'
  else if c = 't' then some '\t'
  else if c = 'b' then some '\x08'
  else if c = 'f' then some '\x0c'
  else none

/-- Reads what follows a backslash: the character that is meant, and the rest. -/
def readEscape : List Char → Option (Char × List Char)
  | 'u' :: a :: b :: c :: d :: rest => do
    let first ← hexNumber? a b c d
    match wholeCharacter? first, rest with
    | some whole, rest => return (whole, rest)
    | none, '\\' :: 'u' :: e :: f :: g :: h :: rest =>
      return (← pairedCharacter? first (← hexNumber? e f g h), rest)
    | none, _ => none
  | c :: rest => (escaped? c).map (·, rest)
  | [] => none

/-- Reads the rest of a text behind its opening quote; `read` holds what came before, the last
character first, and `limit` bounds the number of characters. -/
def readText : (limit : Nat) → (read : List Char) → List Char → Option (String × List Char)
  | 0, _, _ => none
  | _ + 1, _, [] => none
  | limit + 1, read, c :: rest =>
    if c = '"' then some (String.ofList read.reverse, rest)
    else if c = '\\' then do
      let (whole, rest) ← readEscape rest
      readText limit (whole :: read) rest
    else if c.toNat < 32 then none
    else readText limit (c :: read) rest

/-- The digits at the front, and the rest. -/
def readDigits (chars : List Char) : List Char × List Char :=
  (chars.takeWhile Char.isDigit, chars.dropWhile Char.isDigit)

/-- The fraction at the front, if there is one. -/
def readFraction : List Char → Option (List Char × List Char)
  | '.' :: rest =>
    let (digits, rest) := readDigits rest
    if digits.isEmpty then none else some ('.' :: digits, rest)
  | chars => some ([], chars)

/-- The exponent at the front, if there is one. -/
def readExponent (chars : List Char) : Option (List Char × List Char) :=
  match chars with
  | mark :: rest =>
    if mark = 'e' ∨ mark = 'E' then
      let (sign, rest) := match rest with
        | '+' :: rest => (['+'], rest)
        | '-' :: rest => (['-'], rest)
        | rest => ([], rest)
      let (digits, rest) := readDigits rest
      if digits.isEmpty then none else some (mark :: sign ++ digits, rest)
    else some ([], chars)
  | [] => some ([], [])

/-- Reads a number: no zero in front of other digits, and a digit on either side of the point. -/
def readNumber (chars : List Char) : Option (Json × List Char) := do
  let (sign, rest) : Option Char × List Char := match chars with
    | '-' :: rest => (some '-', rest)
    | rest => (none, rest)
  let (whole, rest) := readDigits rest
  guard (!whole.isEmpty && (whole.length == 1 || whole.head? != some '0'))
  let (places, rest) ← readFraction rest
  let (exponent, rest) ← readExponent rest
  if places.isEmpty && exponent.isEmpty then
    let value := whole.foldl (fun value c => 10 * value + (c.toNat - '0'.toNat)) 0
    return (.number (if sign.isSome then -value else value), rest)
  else return (.fraction (String.ofList (sign.toList ++ whole ++ places ++ exponent)), rest)

/-- Characters without the blanks in front. -/
def skipSpace (chars : List Char) : List Char :=
  chars.dropWhile isSpace

mutual

/-- Reads a value; `limit` bounds the number of steps. -/
def readValue : (limit : Nat) → List Char → Option (Json × List Char)
  | 0, _ => none
  | limit + 1, chars =>
    match skipSpace chars with
    | 'n' :: 'u' :: 'l' :: 'l' :: rest => some (.null, rest)
    | 't' :: 'r' :: 'u' :: 'e' :: rest => some (.bool true, rest)
    | 'f' :: 'a' :: 'l' :: 's' :: 'e' :: rest => some (.bool false, rest)
    | '"' :: rest => (readText limit [] rest).map fun (value, rest) => (.text value, rest)
    | '[' :: rest =>
      match skipSpace rest with
      | ']' :: rest => some (.list [], rest)
      | rest => (readItems limit rest).map fun (items, rest) => (.list items, rest)
    | '\x7b' :: rest =>
      match skipSpace rest with
      | '\x7d' :: rest => some (.object [], rest)
      | rest => (readMembers limit rest).map fun (members, rest) => (.object members, rest)
    | rest => readNumber rest

/-- Reads the items of a list up to its end. -/
def readItems : (limit : Nat) → List Char → Option (List Json × List Char)
  | 0, _ => none
  | limit + 1, chars => do
    let (item, rest) ← readValue limit chars
    match skipSpace rest with
    | ']' :: rest => return ([item], rest)
    | ',' :: rest =>
      let (items, rest) ← readItems limit rest
      return (item :: items, rest)
    | _ => none

/-- Reads the members of an object up to its end. -/
def readMembers : (limit : Nat) → List Char → Option (List (String × Json) × List Char)
  | 0, _ => none
  | limit + 1, chars => do
    let '"' :: rest := skipSpace chars | none
    let (name, rest) ← readText limit [] rest
    let ':' :: rest := skipSpace rest | none
    let (value, rest) ← readValue limit rest
    match skipSpace rest with
    | '\x7d' :: rest => return ([(name, value)], rest)
    | ',' :: rest =>
      let (members, rest) ← readMembers limit rest
      return ((name, value) :: members, rest)
    | _ => none

end

/-- The value that a text stands for. Every step but one in two takes a character. -/
def read? (text : String) : Option Json := do
  let chars := text.toList
  let (value, rest) ← readValue (2 * chars.length + 2) chars
  guard (skipSpace rest).isEmpty
  return value

end LendingClient.Json
