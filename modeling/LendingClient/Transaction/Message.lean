import LendingClient.Batch
import LendingClient.Error.Basic

/-!
# Messages

A message is what the signers of a transaction sign. It lists every key that its instructions name
once: first those that have to sign, then the others, and in both groups first those that may be
changed. Instructions refer to keys by their place in that list, in one byte, so a message has at
most 256 keys.
-/

namespace LendingClient

/-- How many keys of each group a message has. -/
structure MessageHeader where
  /-- The keys that have to sign. -/
  requiredSignatures : UInt8
  /-- Those of them that are only read. -/
  readOnlySigned : UInt8
  /-- The keys that do not sign and are only read. -/
  readOnlyUnsigned : UInt8
deriving DecidableEq

/-- An instruction whose keys are given by their places. -/
structure CompiledInstruction where
  program : UInt8
  accounts : Bytes
  data : Bytes
deriving DecidableEq

/-- What the signers sign. -/
structure Message where
  header : MessageHeader
  keys : List Key
  blockhash : Blockhash
  instructions : List CompiledInstruction
deriving DecidableEq

namespace Message

/-- Adds a use to a list that is sorted by key and has each key once. Uses of one key are merged: it
signs if it has to for any of them, and may be changed if it may be for any. -/
def mention (use : AccountUse) : List AccountUse → List AccountUse
  | [] => [use]
  | other :: uses =>
    if use.key = other.key then
      ⟨other.key, use.signs || other.signs, use.writable || other.writable⟩ :: uses
    else if use.key.bytes < other.key.bytes then use :: other :: uses
    else other :: mention use uses

/-- The uses that an instruction makes of keys, that of its program included. -/
def mentions (instruction : Instruction) : List AccountUse :=
  .read instruction.program :: instruction.accounts

/-- Every key that instructions name, once and sorted, but for the payer's. -/
def namedKeys (payer : Key) (instructions : List Instruction) : List AccountUse :=
  ((instructions.flatMap mentions).foldl (fun uses use => mention use uses) []).filter
    (·.key ≠ payer)

/-- The keys with the given flags. -/
def group (signs writable : Bool) (uses : List AccountUse) : List Key :=
  (uses.filter fun use => use.signs == signs && use.writable == writable).map (·.key)

/-- The place of a key in the list of keys. -/
def place (keys : List Key) (key : Key) : UInt8 :=
  UInt8.ofNat (keys.idxOf key)

/-- An instruction with places for keys. -/
def compileInstruction (keys : List Key) (instruction : Instruction) : CompiledInstruction where
  program := place keys instruction.program
  accounts := instruction.accounts.map (place keys ·.key)
  data := instruction.data

/-- The message of instructions that `payer` pays for, unless they name too many keys. -/
def compile (payer : Key) (instructions : List Instruction) (blockhash : Blockhash) :
    Except SignFault Message :=
  let uses := namedKeys payer instructions
  let changedSigners := payer :: group true true uses
  let readSigners := group true false uses
  let readOthers := group false false uses
  let keys := changedSigners ++ readSigners ++ group false true uses ++ readOthers
  if (changedSigners ++ readSigners).length < 256 ∧ readOthers.length < 256 ∧
      keys.length ≤ 256 then
    .ok {
      header := {
        requiredSignatures := UInt8.ofNat (changedSigners ++ readSigners).length
        readOnlySigned := UInt8.ofNat readSigners.length
        readOnlyUnsigned := UInt8.ofNat readOthers.length }
      keys := keys
      blockhash := blockhash
      instructions := instructions.map (compileInstruction keys) }
  else .error .tooManyAccounts

/-- The keys that have to sign. -/
def signerKeys (message : Message) : List Key :=
  message.keys.take message.header.requiredSignatures.toNat

/-- A count of at most sixteen bits: seven bits in each byte, the low ones first, the highest bit set
where more bytes follow. -/
def shortCount (count : Nat) : Bytes :=
  if count < 128 then [UInt8.ofNat count]
  else if count < 16384 then
    [UInt8.ofNat (count % 128 + 128), UInt8.ofNat (count / 128)]
  else [UInt8.ofNat (count % 128 + 128), UInt8.ofNat (count / 128 % 128 + 128),
    UInt8.ofNat (count / 16384)]

/-- The largest count that can be written. -/
def largestCount : Nat := UInt16.size - 1

/-- Whether every count of a compiled instruction can be written. -/
def CompiledInstruction.fits (instruction : CompiledInstruction) : Bool :=
  instruction.accounts.length ≤ largestCount && instruction.data.length ≤ largestCount

/-- Whether every count of a message can be written. There are never too many keys for that. -/
def fits (message : Message) : Bool :=
  message.instructions.length ≤ largestCount &&
    message.instructions.all CompiledInstruction.fits

/-- A compiled instruction in bytes. -/
def CompiledInstruction.bytes (instruction : CompiledInstruction) : Bytes :=
  instruction.program :: shortCount instruction.accounts.length ++ instruction.accounts ++
    shortCount instruction.data.length ++ instruction.data

/-- A message in bytes: the version, the header, the keys, the block hash and the instructions. No
keys are looked up elsewhere. -/
def bytes (message : Message) : Bytes :=
  [0x80, message.header.requiredSignatures, message.header.readOnlySigned,
    message.header.readOnlyUnsigned] ++
  shortCount message.keys.length ++ message.keys.flatMap (·.bytes) ++ message.blockhash.bytes ++
  shortCount message.instructions.length ++
  message.instructions.flatMap CompiledInstruction.bytes ++ shortCount 0

end Message

end LendingClient
