import LendingClient.Json.Basic
import LendingClient.Text.Quoted

/-!
# Taking JSON values apart

What a value has to look like is said by a decoder, which gives what the value stands for or says
where the value differs. Members of an object that no decoder asks for are ignored, and a member that
is null counts as one that is not there wherever it may be missing.
-/

namespace LendingClient.Json

/-- Where a value differs from what was expected. -/
inductive Mismatch where
  /-- Another kind of value. -/
  | unexpected (found : Json) (expected : String)
  /-- A number that does not fit. -/
  | outOfRange (found : Int) (expected : String)
  /-- An object without a member that has to be there. -/
  | missing (name : String)
  /-- A list with fewer items than expected, or with more. -/
  | wrongLength (found : Nat) (expected : String)
  /-- A name that is none of those that can stand here. -/
  | unknown (name : String)
  /-- None of the forms that a value can have. -/
  | noForm (what : String)

/-- A value as it is called in a mismatch. -/
def describe : Json → String
  | .null => "null"
  | .bool value => s!"boolean `{value}`"
  | .number value => s!"integer `{value}`"
  | .fraction literal => s!"floating point `{literal}`"
  | .text value => s!"string {Text.quote value}"
  | .list _ => "sequence"
  | .object _ => "map"

/-- The mismatch in words. -/
def Mismatch.message : Mismatch → String
  | .unexpected found expected => s!"invalid type: {found.describe}, expected {expected}"
  | .outOfRange found expected => s!"invalid value: integer `{found}`, expected {expected}"
  | .missing name => s!"missing field `{name}`"
  | .wrongLength found expected => s!"invalid length {found}, expected {expected}"
  | .unknown name => s!"unknown variant `{name}`"
  | .noForm what => s!"data did not match any variant of {what}"

/-- What a value stands for, or where it differs. -/
abbrev Decode (α : Type) := Except Mismatch α

variable {α : Type}

/-- The value of an option, or a mismatch for none. -/
def orElse (mismatch : Mismatch) : Option α → Decode α
  | some value => .ok value
  | none => .error mismatch

/-- A text. -/
def asText (json : Json) : Decode String :=
  orElse (.unexpected json "a string") json.text?

/-- A truth value. -/
def asBool (json : Json) : Decode Bool :=
  orElse (.unexpected json "a boolean") json.bool?

/-- A list whose items are all decoded in the same way. -/
def asList (decode : Json → Decode α) (json : Json) : Decode (List α) := do
  let items ← orElse (.unexpected json "a sequence") json.list?
  items.mapM decode

/-- A whole number that is at least `low` and less than `high`. -/
def asWhole (low high : Int) (expected : String) (json : Json) : Decode Int := do
  let value ← orElse (.unexpected json expected) json.number?
  if low ≤ value ∧ value < high then return value
  else throw (.outOfRange value expected)

/-- A number of 8 bits without a sign. -/
def asU8 (json : Json) : Decode UInt8 :=
  return UInt8.ofNat (← json.asWhole 0 UInt8.size "u8").toNat

/-- A number of 32 bits without a sign. -/
def asU32 (json : Json) : Decode UInt32 :=
  return UInt32.ofNat (← json.asWhole 0 UInt32.size "u32").toNat

/-- A number of 64 bits without a sign. -/
def asU64 (json : Json) : Decode UInt64 :=
  return UInt64.ofNat (← json.asWhole 0 UInt64.size "u64").toNat

/-- A number of 64 bits with a sign. -/
def asI64 (json : Json) : Decode Int64 :=
  return Int64.ofInt (← json.asWhole Int64.minValue.toInt (Int64.maxValue.toInt + 1) "i64")

/-- A name, which may also be the name of the only member of an object, with nothing behind it. -/
def asName : Json → Decode String
  | .object [(name, .null)] => .ok name
  | json => json.asText

/-- A value that may be null. -/
def asOptional (decode : Json → Decode α) : Json → Decode (Option α)
  | .null => .ok none
  | json => return some (← decode json)

/-- An object of which `members` are the names of the members. It may be given as the list of all its
members in this order, too. -/
def asStructure (name : String) (members : List String) : Json → Decode Json
  | .object fields => .ok (.object fields)
  | .list items =>
    if items.length = members.length then .ok (.object (members.zip items))
    else .error (.wrongLength items.length (if items.length < members.length
      then s!"struct {name} with {members.length} elements" else "fewer elements in array"))
  | json => .error (.unexpected json s!"struct {name}")

/-- The first of several ways to decode a value that succeeds. -/
def asAny (what : String) (ways : List (Json → Decode α)) (json : Json) : Decode α :=
  orElse (.noForm what) (ways.findSome? fun decode => (decode json).toOption)

/-- A member that may be missing. -/
def field? (json : Json) (name : String) (decode : Json → Decode α) : Decode (Option α) :=
  ((json.member? name).filter (!·.isNull)).mapM decode

/-- A member that has to be there. -/
def field (json : Json) (name : String) (decode : Json → Decode α) : Decode α := do
  decode (← orElse (.missing name) (json.member? name))

/-- A member that stands for another value if it is missing. -/
def fieldD (json : Json) (name : String) (decode : Json → Decode α) (other : α) : Decode α :=
  return (← json.field? name decode).getD other

end LendingClient.Json
