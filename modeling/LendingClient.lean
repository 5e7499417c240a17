import LendingClient.Address.Basic
import LendingClient.Address.Known
import LendingClient.Address.Program
import LendingClient.Amount.Basic
import LendingClient.Amount.Fee
import LendingClient.Amount.Numeral
import LendingClient.Amount.Word
import LendingClient.Batch
import LendingClient.Bytes.Base58
import LendingClient.Bytes.Base64
import LendingClient.Bytes.Basic
import LendingClient.Bytes.Endian
import LendingClient.Bytes.Hex
import LendingClient.Calendar
import LendingClient.Client.Basic
import LendingClient.Client.Settings
import LendingClient.CommandLine.Environment
import LendingClient.CommandLine.Folder
import LendingClient.CommandLine.Invocation
import LendingClient.CommandLine.KeyFile
import LendingClient.CommandLine.Report
import LendingClient.CommandLine.Run
import LendingClient.CommandLine.Words
import LendingClient.Digest.Sha2
import LendingClient.Digest.Sha256
import LendingClient.Digest.Sha512
import LendingClient.Discriminator
import LendingClient.Edwards.Ed25519
import LendingClient.Edwards.Field
import LendingClient.Edwards.Point
import LendingClient.Error.Basic
import LendingClient.Error.Input
import LendingClient.Instruction.Arguments
import LendingClient.Instruction.Basic
import LendingClient.Instruction.Kind
import LendingClient.Json.Basic
import LendingClient.Json.Decode
import LendingClient.Json.Reader
import LendingClient.Json.Writer
import LendingClient.Key
import LendingClient.Layout
import LendingClient.Ledger.Accounts
import LendingClient.Ledger.Call
import LendingClient.Ledger.Read
import LendingClient.Ledger.Scripted
import LendingClient.Ledger.Task
import LendingClient.Main
import LendingClient.Node.Basic
import LendingClient.Node.Fault
import LendingClient.Node.Http
import LendingClient.Node.Question
import LendingClient.Node.Rejection
import LendingClient.Node.Reply
import LendingClient.Node.Result
import LendingClient.Node.Scripted
import LendingClient.Operation.Accounts
import LendingClient.Operation.Basic
import LendingClient.Operation.Build
import LendingClient.Operation.Market
import LendingClient.Proofs.Address
import LendingClient.Proofs.Address.Records
import LendingClient.Proofs.Amount.Decimal
import LendingClient.Proofs.Amount.Percent
import LendingClient.Proofs.Amount.Plain
import LendingClient.Proofs.Amount.Units
import LendingClient.Proofs.Calendar
import LendingClient.Proofs.Calendar.DayText
import LendingClient.Proofs.Calendar.Gregorian
import LendingClient.Proofs.Calendar.Offset
import LendingClient.Proofs.Calendar.Span
import LendingClient.Proofs.Calendar.Walk
import LendingClient.Proofs.Client.Attempt
import LendingClient.Proofs.Client.Budget
import LendingClient.Proofs.Client.Cancellation
import LendingClient.Proofs.Client.Confirmation
import LendingClient.Proofs.Client.Course
import LendingClient.Proofs.Client.Enquiry
import LendingClient.Proofs.Client.Receipt
import LendingClient.Proofs.Client.Refusal
import LendingClient.Proofs.Client.Resend
import LendingClient.Proofs.Client.Tries
import LendingClient.Proofs.CommandLine.Bucket
import LendingClient.Proofs.CommandLine.Session
import LendingClient.Proofs.Except
import LendingClient.Proofs.Layout
import LendingClient.Proofs.Layout.Canonical
import LendingClient.Proofs.Layout.Size
import LendingClient.Proofs.Ledger.Read
import LendingClient.Proofs.Operation.Admission
import LendingClient.Proofs.Operation.Amounts
import LendingClient.Proofs.Operation.Breaking
import LendingClient.Proofs.Operation.Buckets
import LendingClient.Proofs.Operation.Clock
import LendingClient.Proofs.Operation.Delays
import LendingClient.Proofs.Operation.Footprint
import LendingClient.Proofs.Operation.Frame
import LendingClient.Proofs.Operation.Input
import LendingClient.Proofs.Operation.Maturity
import LendingClient.Proofs.Operation.Outline
import LendingClient.Proofs.Operation.Payload
import LendingClient.Proofs.Operation.Rates
import LendingClient.Proofs.Operation.Reading
import LendingClient.Proofs.Operation.Scale
import LendingClient.Proofs.Operation.Settling
import LendingClient.Proofs.Operation.Signing
import LendingClient.Proofs.Operation.Value
import LendingClient.Proofs.Record
import LendingClient.Proofs.Run.Action
import LendingClient.Proofs.Run.Basic
import LendingClient.Proofs.Run.Complete
import LendingClient.Proofs.Run.Confined
import LendingClient.Proofs.Run.Frame
import LendingClient.Proofs.Run.Lockstep
import LendingClient.Proofs.Run.Reading
import LendingClient.Proofs.Run.Retiming
import LendingClient.Proofs.Run.Scripted
import LendingClient.Proofs.Run.Snapshot
import LendingClient.Proofs.Run.Sparing
import LendingClient.Proofs.Run.Steady
import LendingClient.Proofs.Run.Wishes
import LendingClient.Proofs.Submission.Ending
import LendingClient.Proofs.Submission.Enquiry
import LendingClient.Proofs.Submission.Expiry
import LendingClient.Proofs.Submission.Findings
import LendingClient.Proofs.Submission.Poll
import LendingClient.Proofs.Submission.Verdict
import LendingClient.Proofs.Text.Digits
import LendingClient.Proofs.Text.Utf8
import LendingClient.Proofs.Transaction.Keys
import LendingClient.Proofs.Transaction.Signatures
import LendingClient.Proofs.Transaction.Signing
import LendingClient.Proofs.Transaction.Size
import LendingClient.Record.Basic
import LendingClient.Record.DailyStats
import LendingClient.Record.GlobalStats
import LendingClient.Record.MainState
import LendingClient.Record.Mint
import LendingClient.Record.UserLoan
import LendingClient.Rejection.Basic
import LendingClient.Rejection.Instruction
import LendingClient.Rejection.Transaction
import LendingClient.Signer
import LendingClient.Submission.Confirm
import LendingClient.Submission.Outcome
import LendingClient.Text.Alphanumeric
import LendingClient.Text.Blank
import LendingClient.Text.Digits
import LendingClient.Text.Quoted
import LendingClient.Text.Split
import LendingClient.Text.Unmarked
import LendingClient.Text.Utf8
import LendingClient.Text.Version
import LendingClient.Text.Whole
import LendingClient.Transaction.Basic
import LendingClient.Transaction.Message
