/-!
# JSON values

The values that are exchanged with a node and printed for the user. Whole numbers are exact; a number
with a fraction or an exponent is kept as it was written, because nothing here computes with one.
-/

namespace LendingClient

/-- A JSON value. The members of an object stay in their order. -/
inductive Json where
  | null
  | bool (value : Bool)
  | number (value : Int)
  | fraction (literal : String)
  | text (value : String)
  | list (items : List Json)
  | object (members : List (String × Json))

namespace Json

/-- A number that cannot be negative. -/
def ofNat (value : Nat) : Json := .number value

/-- A value, or null for none. -/
def ofOption {α : Type} (write : α → Json) : Option α → Json
  | some value => write value
  | none => .null

/-- The member of an object, the last one if there are several. -/
def member? (name : String) : Json → Option Json
  | .object members => (members.reverse.find? (·.1 == name)).map (·.2)
  | _ => none

/-- The text, if the value is one. -/
def text? : Json → Option String
  | .text value => some value
  | _ => none

/-- The whole number, if the value is one. -/
def number? : Json → Option Int
  | .number value => some value
  | _ => none

/-- The truth value, if the value is one. -/
def bool? : Json → Option Bool
  | .bool value => some value
  | _ => none

/-- The items, if the value is a list. -/
def list? : Json → Option (List Json)
  | .list items => some items
  | _ => none

/-- Whether the value is null. -/
def isNull : Json → Bool
  | .null => true
  | _ => false

end Json

end LendingClient
