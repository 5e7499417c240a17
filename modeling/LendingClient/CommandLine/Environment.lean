import LendingClient.Text.Alphanumeric
import LendingClient.Text.Blank

/-!
# Environment

Variables have values from outside, and a file may set more of them. Each entry of the file is a
name, an equals sign and a value. Single quotes keep everything as it is; elsewhere a backslash
escapes, and a dollar sign puts in a variable, from outside if it is set there and else from an
earlier entry. A value may run over several lines inside quotes. A comment begins with a number sign
at the start of a line or behind a blank. The first entry that cannot be read ends the file, and the
ones before it count.
-/

namespace LendingClient

/-- Variables and their values. -/
structure Environment where
  entries : List (String × String) := []

namespace Environment

/-- The value of a variable. -/
def value? (environment : Environment) (name : String) : Option String :=
  environment.entries.lookup name

/-- Sets a variable unless it is set already. -/
def add (environment : Environment) (name value : String) : Environment :=
  if (environment.value? name).isSome then environment
  else ⟨environment.entries ++ [(name, value)]⟩

/-- How far the quoting of an entry has come while its lines are put together. -/
inductive Quoting where
  | plain
  | blank
  | escape
  | single
  | singleEscape
  | double
  | doubleEscape
deriving DecidableEq

/-- The quoting behind one more character; none where a comment begins. -/
def Quoting.next (quoting : Quoting) (c : Char) : Option Quoting :=
  let opened : Quoting :=
    if c = '\\' then .escape else if c = '"' then .double else if c = '\'' then .single else .plain
  match quoting with
  | .blank => if c = '#' then none else some opened
  | .plain =>
    if Text.isBlank c && c ≠ '\n' && c ≠ '\r' then some .blank else some opened
  | .escape => some .plain
  | .single =>
    some (if c = '\\' then .singleEscape else if c = '\'' then .plain else .single)
  | .singleEscape => some .single
  | .double => some (if c = '\\' then .doubleEscape else if c = '"' then .plain else .double)
  | .doubleEscape => some .double

/-- How the lines of an entry end. -/
inductive LineEnd where
  /-- The entry is over. -/
  | closed
  /-- The entry goes on, with this quoting. -/
  | goesOn (quoting : Quoting)

/-- Goes through one more line of an entry: what belongs to the entry, and how the line ends. -/
def readLine (quoting : Quoting) : List Char → List Char × LineEnd
  | [] => ([], if quoting = .plain then .closed else .goesOn quoting)
  | c :: rest =>
    match quoting.next c with
    | none => ([], .closed)
    | some quoting =>
      let (line, lineEnd) := readLine quoting rest
      (c :: line, lineEnd)

/-- The lines of a text, each with the line break that ends it. -/
def splitLines : List Char → List (List Char)
  | [] => []
  | c :: rest =>
    if c = '\n' then [c] :: splitLines rest
    else match splitLines rest with
      | [] => [[c]]
      | line :: lines => (c :: line) :: lines

/-- The entries that lines hold, up to one that is not closed. -/
def joinLines (opened : List Char) (quoting : Quoting) : List (List Char) → List (List Char)
  | [] => []
  | line :: lines =>
    if (Text.trimStart (opened ++ line)).head? = some '#' then joinLines [] .plain lines
    else match readLine quoting line with
      | (part, .closed) => (opened ++ part) :: joinLines [] .plain lines
      | (part, .goesOn quoting) => joinLines (opened ++ part) quoting lines

/-- How far reading a value has come. -/
inductive Scan where
  /-- In the value. -/
  | inside
  /-- Behind the value. -/
  | behind
  /-- Behind a backslash. -/
  | escape
  /-- In a name behind a dollar sign, the last character first. -/
  | name (read : List Char)
  /-- In a name in braces, the last character first. -/
  | braced (read : List Char)

/-- The quotes that are open in a value. -/
inductive Quotes where
  | none
  | single
  | double
deriving DecidableEq

/-- A value as far as it was read. -/
structure ValueSoFar where
  quotes : Quotes := .none
  scan : Scan := .inside
  /-- The value, the last character first. -/
  read : List Char := []

namespace ValueSoFar

/-- Adds a character to the value. -/
def push (value : ValueSoFar) (c : Char) : ValueSoFar :=
  { value with scan := .inside, read := c :: value.read }

/-- Puts the value of a variable in. -/
def putIn (value : ValueSoFar) (lookup : String → String) (name : List Char) : ValueSoFar :=
  let found := lookup (String.ofList name.reverse)
  { value with scan := .inside, read := found.toList.reverse ++ value.read }

/-- Reads a character that has no meaning from what came before it but the quotes. -/
def stepInside (value : ValueSoFar) (c : Char) : ValueSoFar :=
  if value.quotes = .single then
    if c = '\'' then { value with quotes := .none } else value.push c
  else if c = '$' then { value with scan := .name [] }
  else if c = '\\' then { value with scan := .escape }
  else if value.quotes = .double then
    if c = '"' then { value with quotes := .none } else value.push c
  else if c = '\'' then { value with quotes := .single }
  else if c = '"' then { value with quotes := .double }
  else if c = ' ' || c = '\t' then { value with scan := .behind }
  else value.push c

/-- Reads one more character; none if it cannot stand there. A name behind a dollar sign is made of
letters and digits of any script. A comment behind the value is not read by this. -/
def step (lookup : String → String) (value : ValueSoFar) (c : Char) : Option ValueSoFar :=
  match value.scan with
  | .inside => some (value.stepInside c)
  | .behind => if c = ' ' || c = '\t' then some value else none
  | .escape =>
    if c = 'n' then some (value.push '\n')
    else if c = '\\' || c = '\'' || c = '"' || c = '$' || c = ' ' then some (value.push c)
    else none
  | .name read =>
    if Text.isAlphanumeric c then some { value with scan := .name (c :: read) }
    else if c = '\x7b' && read.isEmpty then some { value with scan := .braced [] }
    else if c = '$' then some { value.putIn lookup read with scan := .name [] }
    else some ((value.putIn lookup read).push c)
  | .braced read =>
    if c = '\x7d' then some (value.putIn lookup read)
    else some { value with scan := .braced (c :: read) }

/-- The value, if it is complete. -/
def finish (lookup : String → String) (value : ValueSoFar) : Option String :=
  match value.quotes, value.scan with
  | .none, .braced _ => none
  | .none, .name read => some (String.ofList (value.putIn lookup read).read.reverse)
  | .none, _ => some (String.ofList value.read.reverse)
  | _, _ => none

end ValueSoFar

/-- Reads a value up to its end or to a comment behind it. -/
def readValue (lookup : String → String) : ValueSoFar → List Char → Option String
  | value, [] => value.finish lookup
  | value, c :: rest =>
    match value.scan, c with
    | .behind, '#' => value.finish lookup
    | _, _ => do readValue lookup (← value.step lookup c) rest

/-- A letter or an underscore of ASCII, with which a name begins. -/
def isNameStart (c : Char) : Bool :=
  c.isAlpha || c = '_'

/-- A character of a name. -/
def isNameChar (c : Char) : Bool :=
  c.isAlphanum || c = '_' || c = '.'

/-- Reads a name and the blanks behind it. -/
def readName (chars : List Char) : Option (String × List Char) :=
  if chars.head?.any isNameStart then
    some (String.ofList (chars.takeWhile isNameChar), Text.trimStart (chars.dropWhile isNameChar))
  else none

/-- Reads the name of an entry up to the equals sign. The word `export` may stand in front of it. -/
def readNamePart (chars : List Char) : Option (String × List Char) := do
  match ← readName chars with
  | (name, '=' :: rest) => return (name, rest)
  | ("export", rest) =>
    let (name, '=' :: rest) ← readName rest | none
    return (name, rest)
  | _ => none

/-- Reads an entry: a name and a value, or nothing; none if it cannot be read. -/
def readEntry (lookup : String → String) (line : List Char) :
    Option (Option (String × String)) := do
  let chars := Text.trim line
  if chars.isEmpty || chars.head? = some '#' then return none
  let (name, rest) ← readNamePart chars
  let rest := Text.trimStart rest
  if rest.isEmpty || rest.head? = some '#' then return some (name, "")
  return some (name, ← readValue lookup {} rest)

/-- The value that a variable puts into another one: the one from outside, or that of the last entry
before. -/
def substitute (outside : Environment) (earlier : List (String × String)) (name : String) :
    String :=
  ((outside.value? name).or (earlier.lookup name)).getD ""

/-- Sets the variables of entries that are not set, up to the first entry that cannot be read. A
variable that was set by an entry counts as set from outside for those behind it. -/
def addEntries (environment : Environment) (earlier : List (String × String)) :
    List (List Char) → Environment
  | [] => environment
  | line :: lines =>
    match readEntry (substitute environment earlier) line with
    | none => environment
    | some none => environment.addEntries earlier lines
    | some (some (name, value)) =>
      (environment.add name value).addEntries ((name, value) :: earlier) lines

/-- Sets the variables of a file that are not set. -/
def addFile (environment : Environment) (text : String) : Environment :=
  let chars := match text.toList with
    | '\ufeff' :: rest => rest
    | chars => chars
  environment.addEntries [] (joinLines [] .plain (splitLines chars))

end Environment

end LendingClient
