import LendingClient.Bytes.Endian
import LendingClient.Error.Basic

/-!
# Token mints

The account of a token says how many decimal places its amounts have. Its first 82 bytes are the
same for every token: who may issue it, the supply, the decimal places, whether it was set up, and
who may freeze accounts. Newer tokens may have further data, which begins where the data of a token
account would end and says there that it belongs to a mint.
-/

namespace LendingClient

/-- What is read from the account of a token. -/
structure Mint where
  /-- The supply in units. -/
  supply : UInt64
  /-- The decimal places of an amount. -/
  decimals : UInt8
deriving DecidableEq

namespace Mint

/-- The bytes that every mint has. -/
def size : Nat := 82

/-- The size of an account that several owners share, which no mint has. -/
def sharedAccountSize : Nat := 355

/-- The size of the account of a token holder. -/
def holderSize : Nat := 165

/-- The type of account that marks a mint. -/
def accountType : UInt8 := 1

/-- Four bytes that say whether a key follows them. -/
def isPresence (bytes : Bytes) : Bool :=
  bytes = [0, 0, 0, 0] || bytes = [1, 0, 0, 0]

/-- The bytes between a mint and the type of account. -/
def gapSize : Nat := holderSize - size

/-- Whether the bytes after a mint are those of a mint with further data: zeros up to the size of a
holder's account, then the type of account, and then at least one byte of the further data. -/
def isExtension (rest : Bytes) : Bool :=
  gapSize + 1 < rest.length && (rest.take gapSize).all (· == 0) &&
    rest[gapSize]? = some accountType

/-- Reads the data of a token's account. -/
def read (data : Bytes) : Except MintFault Mint :=
  let setUp := data.getD 45 0
  if data.length < size ∨ data.length = sharedAccountSize then .error .invalid
  else if !(isPresence (data.take 4) && isPresence ((data.drop 46).take 4)) ∨ 1 < setUp then
    .error .invalid
  else if setUp = 0 then .error .uninitialized
  else if !(data.length = size || isExtension (data.drop size)) then .error .invalid
  else .ok {
    supply := UInt64.ofNat (ofLittleEndian ((data.drop 36).take 8))
    decimals := data.getD 44 0 }

/-- Reads the data of the token's account at `address`. -/
def decode (address : Key) (data : Bytes) : Except Error Mint :=
  (read data).mapError fun fault => .decode .mint address (.mint fault)

end Mint

end LendingClient
