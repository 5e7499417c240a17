/-!
# Words of a command line

A command line is read word by word. At each level there are options, which begin with a hyphen and
may take a value, and either operands, which stand in their order, or commands, which open the next
level. A value is checked when the next option or operand is read, so that a request for help that
comes before wins; a word that begins with a hyphen is never a value. Behind two hyphens every word is
an operand.
-/

namespace LendingClient.CommandLine

/-- Why reading ends without something to do. -/
inductive Stop where
  /-- The user asks for help. -/
  | help
  /-- The user asks for the version. -/
  | version
  /-- The words make no sense. -/
  | misuse
deriving DecidableEq

/-- An option. -/
structure Choice where
  name : String
  /-- A letter that stands for the name. -/
  letter : Option Char := none
  /-- The environment variable that stands in for the option. -/
  fallback : Option String := none
  /-- Which values will do; an option without it takes none. -/
  accepts : Option (String → Bool) := none
  required : Bool := false

/-- An operand. -/
structure Operand where
  name : String
  accepts : String → Bool := fun _ => true
  required : Bool := true

/-- What may stand at one level. -/
structure Level where
  choices : List Choice := []
  operands : List Operand := []
  commands : List String := []
  /-- Whether the version can be asked for. -/
  hasVersion : Bool := false

/-- What was read at one level. -/
structure Found where
  /-- Options and operands with their values; an option without a value has an empty one. -/
  values : List (String × String) := []
  /-- The last value, which was not checked yet. -/
  pending : Option (String × (String → Bool) × String) := none

/-- The value of an option or an operand. -/
def Found.value? (found : Found) (name : String) : Option String :=
  found.values.lookup name

/-- Adds a value that will do, unless there is one already. -/
def Found.add (found : Found) (name : String) (accepts : String → Bool) (value : String) :
    Except Stop Found :=
  if accepts value && (found.value? name).isNone then
    .ok { found with values := (name, value) :: found.values }
  else .error .misuse

/-- Checks the last value. -/
def Found.settle (found : Found) : Except Stop Found :=
  match found.pending with
  | none => .ok found
  | some (name, accepts, value) => { found with pending := none }.add name accepts value

/-- How a word looks. -/
inductive Shape where
  /-- Two hyphens. -/
  | divider
  /-- Two hyphens, a name, and a value behind an equals sign. -/
  | long (name : String) (value : Option String)
  /-- A hyphen and letters. -/
  | short (letters : List Char)
  /-- Everything else. -/
  | plain (word : String)

/-- How a word looks. -/
def shape (word : String) : Shape :=
  match word.toList with
  | ['-', '-'] => .divider
  | '-' :: '-' :: rest =>
    let name := rest.takeWhile (· ≠ '=')
    let value := match rest.dropWhile (· ≠ '=') with
      | [] => none
      | _ :: value => some (String.ofList value)
    .long (String.ofList name) value
  | '-' :: c :: rest => .short (c :: rest)
  | _ => .plain word

/-- What has to come next. -/
inductive Next where
  /-- Any word. -/
  | any
  /-- The value of an option. -/
  | value (name : String) (accepts : String → Bool)

/-- Reads an option that was found: its value, if it has one already, is checked at once. -/
def takeChoice (found : Found) (choice : Choice) (value : Option String) :
    Except Stop (Found × Next) := do
  let found ← found.settle
  match choice.accepts, value with
  | none, none => return (← found.add choice.name (fun _ => true) "", .any)
  | none, some _ => throw .misuse
  | some accepts, some value => return (← found.add choice.name accepts value, .any)
  | some accepts, none => return (found, .value choice.name accepts)

/-- Reads an option by its name. -/
def takeLong (level : Level) (found : Found) (name : String) (value : Option String) :
    Except Stop (Found × Next) := do
  match level.choices.find? (·.name = name) with
  | some choice => takeChoice found choice value
  | none =>
    let stop ← if name = "help" then pure Stop.help
      else if name = "version" && level.hasVersion then pure Stop.version
      else throw .misuse
    if value.isSome then throw .misuse
    let _ ← found.settle
    throw stop

/-- Reads an option by its letter. What follows the letter in the same word, behind an equals sign or
not, is its value. -/
def takeShort (level : Level) (found : Found) : List Char → Except Stop (Found × Next)
  | [] => .error .misuse
  | letter :: rest => do
    match level.choices.find? (·.letter = some letter) with
    | some choice =>
      let value := match rest with
        | [] => none
        | '=' :: value => some (String.ofList value)
        | value => some (String.ofList value)
      takeChoice found choice value
    | none =>
      let stop ← if letter = 'h' then pure Stop.help
        else if letter = 'V' && level.hasVersion then pure Stop.version
        else throw .misuse
      let _ ← found.settle
      throw stop

/-- Reads an operand. -/
def takeOperand (found : Found) (operands : List Operand) (word : String) :
    Except Stop (Found × List Operand) := do
  match operands with
  | [] => throw .misuse
  | operand :: operands =>
    let found ← found.settle
    return ({ found with pending := some (operand.name, operand.accepts, word) }, operands)

/-- Reads words that are operands, whatever they look like. -/
def takeOperands (found : Found) (operands : List Operand) : List String → Except Stop Found
  | [] => .ok found
  | word :: words => do
    let (found, operands) ← takeOperand found operands word
    takeOperands found operands words

/-- Reads the words of one level up to a command; gives the command and the words behind it too. -/
def takeWords (level : Level) (operands : List Operand) (found : Found) :
    Next → List String → Except Stop (Found × Option (String × List String))
  | .any, [] => .ok (found, none)
  | .value .., [] => .error .misuse
  | .value name accepts, word :: words =>
    match shape word with
    | .plain value =>
      takeWords level operands { found with pending := some (name, accepts, value) } .any words
    | _ => .error .misuse
  | .any, word :: words =>
    match shape word with
    | .divider => return (← takeOperands found operands words, none)
    | .long name value => do
      let (found, next) ← takeLong level found name value
      takeWords level operands found next words
    | .short letters => do
      let (found, next) ← takeShort level found letters
      takeWords level operands found next words
    | .plain value =>
      if level.commands.isEmpty then do
        let (found, operands) ← takeOperand found operands value
        takeWords level operands found .any words
      else if level.commands.contains value then .ok (found, some (value, words))
      else .error .misuse

/-- Reads the words of one level. -/
def Level.read (level : Level) (words : List String) :
    Except Stop (Found × Option (String × List String)) :=
  takeWords level level.operands {} .any words

/-- Lets an environment variable stand in for an option that was left out. -/
def Found.fill (environment : String → Option String) (found : Found) (choice : Choice) :
    Except Stop Found :=
  if (found.value? choice.name).isSome then .ok found
  else match choice.accepts, choice.fallback.bind environment with
    | some accepts, some value => found.add choice.name accepts value
    | _, _ => if choice.required then .error .misuse else .ok found

/-- Whether every operand that has to be there is. -/
def Level.isServed (level : Level) (found : Found) : Bool :=
  level.operands.all fun operand => !operand.required || (found.value? operand.name).isSome

/-- Checks what was read at a level and that nothing is missing. -/
def Level.complete (level : Level) (environment : String → Option String) (found : Found) :
    Except Stop Found := do
  let settled ← found.settle
  let found ← level.choices.foldlM (Found.fill environment) settled
  if level.isServed found then return found else throw .misuse

end LendingClient.CommandLine
