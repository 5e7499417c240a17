import LendingClient.Discriminator
import LendingClient.Error.Basic
import LendingClient.Layout

/-!
# Records

The program keeps its state in accounts. The data of an account is a discriminator that says what
kind of record it holds, the fields of the record in their layout, and possibly bytes that are left
over from when the account was made.
-/

namespace LendingClient

/-- A type of values that the program keeps in accounts of one kind. -/
class Record (α : Type) where
  /-- The kind of the accounts. -/
  kind : AccountKind
  /-- How the fields are laid out. -/
  layout : Layout α

namespace Record

variable (α : Type) [Record α]

/-- The eight bytes that data of this kind begins with. -/
def tag : Bytes :=
  discriminator accountSpace (kind α).name

/-- The record in an account's data; bytes after its fields do not count. -/
def read? (data : Bytes) : Except DecodeFault α :=
  if data.length < 8 then .error (.short data.length)
  else if data.take 8 ≠ tag α then .error .otherKind
  else
    match (layout (α := α)).read (data.drop 8) with
    | .ok (value, _) => .ok value
    | .error fault => .error (.fields fault)

/-- The record in the data of the account at `address`. -/
def decode (address : Key) (data : Bytes) : Except Error α :=
  (read? α data).mapError (.decode (kind α) address)

variable {α}

/-- An account's data for a record, with nothing left over. -/
def encode (value : α) : Bytes :=
  tag α ++ layout.write value

end Record

end LendingClient
