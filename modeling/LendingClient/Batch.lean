import LendingClient.Instruction.Basic
import LendingClient.Instruction.Kind
import LendingClient.Signer
import LendingClient.Text.Quoted

/-!
# Batches

What one transaction is made from: the instructions in their order, headed by a limit on computing
and ended by the program's own instruction, and the pairs of keys that have to sign besides the
payer.
-/

namespace LendingClient

/-- The makings of a transaction. -/
structure Batch where
  /-- The program's instruction that the batch is for. -/
  kind : InstructionKind
  /-- Who pays. -/
  payer : Key
  /-- All instructions in their order. -/
  instructions : List Instruction
  /-- The keys that sign besides the payer. -/
  cosigners : List KeyPair := []
  /-- The days whose totals the program's instruction names, in the order of its accounts. -/
  days : List String := []

namespace Batch

/-- A batch headed by the limit on computing of its instruction. -/
def headed (kind : InstructionKind) (payer : Key) (instructions : List Instruction) : Batch where
  kind := kind
  payer := payer
  instructions := .computeUnitLimit kind.computeUnits :: instructions

/-- The program's own instruction. -/
def programInstruction? (batch : Batch) : Option Instruction :=
  batch.instructions.getLast?

/-- The fields of a batch as they are shown, each list item by item. -/
def shownCosigners (batch : Batch) : List String :=
  batch.cosigners.map (·.key.text)

/-- The days of a batch as they are shown. -/
def shownDays (batch : Batch) : List String :=
  batch.days.map Text.quote

/-- A batch in one line. -/
def line (batch : Batch) : String :=
  let list (items : List String) := "[" ++ ", ".intercalate items ++ "]"
  s!"InstructionBatch \x7b instruction: {Text.quote batch.kind.name}, payer: {batch.payer.text}, " ++
    s!"instructions: {batch.instructions.length}, " ++
    s!"ephemeral_signers: {list batch.shownCosigners}, days: {list batch.shownDays} \x7d"

/-- A batch over several lines. -/
def lines (batch : Batch) : String :=
  let list (items : List String) :=
    if items.isEmpty then "[]"
    else "[\n" ++ String.join (items.map fun item => "        " ++ item ++ ",\n") ++ "    ]"
  "InstructionBatch \x7b\n" ++
    s!"    instruction: {Text.quote batch.kind.name},\n" ++
    s!"    payer: {batch.payer.text},\n" ++
    s!"    instructions: {batch.instructions.length},\n" ++
    s!"    ephemeral_signers: {list batch.shownCosigners},\n" ++
    s!"    days: {list batch.shownDays},\n" ++
    "\x7d"

end Batch

end LendingClient
