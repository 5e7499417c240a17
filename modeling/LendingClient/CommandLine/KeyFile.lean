import LendingClient.CommandLine.Folder
import LendingClient.Signer
import LendingClient.Text.Blank
import LendingClient.Text.Whole

/-!
# Key files

A pair of keys is kept in a file as a list of 64 numbers in brackets: the bytes of the seed, then
those of the public key, which has to be the seed's.
-/

namespace LendingClient

/-- Why a file gives no pair of keys. -/
inductive KeyFileFault where
  /-- The file cannot be read. -/
  | unreadable (why : FileFault)
  /-- There are no brackets around the text. -/
  | noList
  /-- There are more numbers than 64, or fewer. -/
  | count (found : Nat)
  /-- A number that is no byte. -/
  | number (why : Text.WholeFault)
  /-- The public key is no point of the curve. -/
  | noPoint
  /-- The public key is not the seed's. -/
  | otherKey
deriving DecidableEq

/-- The number of bytes of a pair of keys. -/
def pairLength : Nat := 64

/-- The fault in words. -/
def KeyFileFault.message : KeyFileFault → String
  | .unreadable why => why.message
  | .noList => "Input must be a JSON array"
  | .count found => s!"Expected {pairLength} elements, found {found}"
  | .number why => why.message
  | .noPoint => "signature error: Cannot decompress Edwards point"
  | .otherKey =>
    "signature error: keypair bytes do not specify same pubkey as derived from their secret key"

namespace KeyFile

/-- The characters between brackets. -/
def betweenBrackets? : List Char → Option (List Char)
  | '[' :: rest => if rest.getLast? = some ']' then some rest.dropLast else none
  | _ => none

/-- The byte that a text stands for. -/
def readByte (chars : List Char) : Except KeyFileFault UInt8 :=
  match Text.readUnsigned 255 (Text.trim chars) with
  | .ok value => .ok (UInt8.ofNat value)
  | .error why => .error (.number why)

/-- The pair of keys of a seed and the public key that is said to be the seed's. -/
def pairOf (seed key : Octets 32) : Except KeyFileFault KeyPair :=
  let pair := KeyPair.ofSeed seed
  if !Edwards.onCurve key then .error .noPoint
  else if pair.key = key then .ok pair
  else .error .otherKey

/-- The pair of keys that a file holds. -/
def read (text : String) : Except KeyFileFault KeyPair := do
  match betweenBrackets? (Text.trim text.toList) with
  | none => throw .noList
  | some inner =>
    let parts := Text.split ',' inner
    if parts.length ≠ pairLength then throw (.count parts.length)
    let bytes ← parts.mapM readByte
    match Octets.ofBytes? 32 (bytes.take 32), Octets.ofBytes? 32 (bytes.drop 32) with
    | some seed, some key => pairOf seed key
    | _, _ => throw (.count bytes.length)

end KeyFile

end LendingClient
