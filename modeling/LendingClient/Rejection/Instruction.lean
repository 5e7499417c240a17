/-!
# Instruction faults

The faults without further detail with which a program, or the machine that runs it, refuses an
instruction. Each has a code, which the ledger sends, and a message.
-/

namespace LendingClient

/-- A fault of an instruction that carries no detail. -/
inductive InstructionFault where
  | genericError
  | invalidArgument
  | invalidInstructionData
  | invalidAccountData
  | accountDataTooSmall
  | insufficientFunds
  | incorrectProgramId
  | missingRequiredSignature
  | accountAlreadyInitialized
  | uninitializedAccount
  | unbalancedInstruction
  | modifiedProgramId
  | externalAccountLamportSpend
  | externalAccountDataModified
  | readonlyLamportChange
  | readonlyDataModified
  | duplicateAccountIndex
  | executableModified
  | rentEpochModified
  | notEnoughAccountKeys
  | accountDataSizeChanged
  | accountNotExecutable
  | accountBorrowFailed
  | accountBorrowOutstanding
  | duplicateAccountOutOfSync
  | invalidError
  | executableDataModified
  | executableLamportChange
  | executableAccountNotRentExempt
  | unsupportedProgramId
  | callDepth
  | missingAccount
  | reentrancyNotAllowed
  | maxSeedLengthExceeded
  | invalidSeeds
  | invalidRealloc
  | computationalBudgetExceeded
  | privilegeEscalation
  | programEnvironmentSetupFailure
  | programFailedToComplete
  | programFailedToCompile
  | immutable
  | incorrectAuthority
  | accountNotRentExempt
  | invalidAccountOwner
  | arithmeticOverflow
  | unsupportedSysvar
  | illegalOwner
  | maxAccountsDataAllocationsExceeded
  | maxAccountsExceeded
  | maxInstructionTraceLengthExceeded
  | builtinProgramsMustConsumeComputeUnits
deriving DecidableEq

namespace InstructionFault

/-- Every one of them. -/
def all : List InstructionFault :=
  [.genericError, .invalidArgument, .invalidInstructionData, .invalidAccountData,
   .accountDataTooSmall, .insufficientFunds, .incorrectProgramId, .missingRequiredSignature,
   .accountAlreadyInitialized, .uninitializedAccount, .unbalancedInstruction, .modifiedProgramId,
   .externalAccountLamportSpend, .externalAccountDataModified, .readonlyLamportChange,
   .readonlyDataModified, .duplicateAccountIndex, .executableModified, .rentEpochModified,
   .notEnoughAccountKeys, .accountDataSizeChanged, .accountNotExecutable, .accountBorrowFailed,
   .accountBorrowOutstanding, .duplicateAccountOutOfSync, .invalidError, .executableDataModified,
   .executableLamportChange, .executableAccountNotRentExempt, .unsupportedProgramId, .callDepth,
   .missingAccount, .reentrancyNotAllowed, .maxSeedLengthExceeded, .invalidSeeds, .invalidRealloc,
   .computationalBudgetExceeded, .privilegeEscalation, .programEnvironmentSetupFailure,
   .programFailedToComplete, .programFailedToCompile, .immutable, .incorrectAuthority,
   .accountNotRentExempt, .invalidAccountOwner, .arithmeticOverflow, .unsupportedSysvar,
   .illegalOwner, .maxAccountsDataAllocationsExceeded, .maxAccountsExceeded,
   .maxInstructionTraceLengthExceeded, .builtinProgramsMustConsumeComputeUnits]

/-- The ledger's code for it. -/
def code : InstructionFault → String
  | .genericError => "GenericError"
  | .invalidArgument => "InvalidArgument"
  | .invalidInstructionData => "InvalidInstructionData"
  | .invalidAccountData => "InvalidAccountData"
  | .accountDataTooSmall => "AccountDataTooSmall"
  | .insufficientFunds => "InsufficientFunds"
  | .incorrectProgramId => "IncorrectProgramId"
  | .missingRequiredSignature => "MissingRequiredSignature"
  | .accountAlreadyInitialized => "AccountAlreadyInitialized"
  | .uninitializedAccount => "UninitializedAccount"
  | .unbalancedInstruction => "UnbalancedInstruction"
  | .modifiedProgramId => "ModifiedProgramId"
  | .externalAccountLamportSpend => "ExternalAccountLamportSpend"
  | .externalAccountDataModified => "ExternalAccountDataModified"
  | .readonlyLamportChange => "ReadonlyLamportChange"
  | .readonlyDataModified => "ReadonlyDataModified"
  | .duplicateAccountIndex => "DuplicateAccountIndex"
  | .executableModified => "ExecutableModified"
  | .rentEpochModified => "RentEpochModified"
  | .notEnoughAccountKeys => "NotEnoughAccountKeys"
  | .accountDataSizeChanged => "AccountDataSizeChanged"
  | .accountNotExecutable => "AccountNotExecutable"
  | .accountBorrowFailed => "AccountBorrowFailed"
  | .accountBorrowOutstanding => "AccountBorrowOutstanding"
  | .duplicateAccountOutOfSync => "DuplicateAccountOutOfSync"
  | .invalidError => "InvalidError"
  | .executableDataModified => "ExecutableDataModified"
  | .executableLamportChange => "ExecutableLamportChange"
  | .executableAccountNotRentExempt => "ExecutableAccountNotRentExempt"
  | .unsupportedProgramId => "UnsupportedProgramId"
  | .callDepth => "CallDepth"
  | .missingAccount => "MissingAccount"
  | .reentrancyNotAllowed => "ReentrancyNotAllowed"
  | .maxSeedLengthExceeded => "MaxSeedLengthExceeded"
  | .invalidSeeds => "InvalidSeeds"
  | .invalidRealloc => "InvalidRealloc"
  | .computationalBudgetExceeded => "ComputationalBudgetExceeded"
  | .privilegeEscalation => "PrivilegeEscalation"
  | .programEnvironmentSetupFailure => "ProgramEnvironmentSetupFailure"
  | .programFailedToComplete => "ProgramFailedToComplete"
  | .programFailedToCompile => "ProgramFailedToCompile"
  | .immutable => "Immutable"
  | .incorrectAuthority => "IncorrectAuthority"
  | .accountNotRentExempt => "AccountNotRentExempt"
  | .invalidAccountOwner => "InvalidAccountOwner"
  | .arithmeticOverflow => "ArithmeticOverflow"
  | .unsupportedSysvar => "UnsupportedSysvar"
  | .illegalOwner => "IllegalOwner"
  | .maxAccountsDataAllocationsExceeded => "MaxAccountsDataAllocationsExceeded"
  | .maxAccountsExceeded => "MaxAccountsExceeded"
  | .maxInstructionTraceLengthExceeded => "MaxInstructionTraceLengthExceeded"
  | .builtinProgramsMustConsumeComputeUnits => "BuiltinProgramsMustConsumeComputeUnits"

/-- What it says to a person. -/
def message : InstructionFault → String
  | .genericError => "generic instruction error"
  | .invalidArgument => "invalid program argument"
  | .invalidInstructionData => "invalid instruction data"
  | .invalidAccountData => "invalid account data for instruction"
  | .accountDataTooSmall => "account data too small for instruction"
  | .insufficientFunds => "insufficient funds for instruction"
  | .incorrectProgramId => "incorrect program id for instruction"
  | .missingRequiredSignature => "missing required signature for instruction"
  | .accountAlreadyInitialized => "instruction requires an uninitialized account"
  | .uninitializedAccount => "instruction requires an initialized account"
  | .unbalancedInstruction => "sum of account balances before and after instruction do not match"
  | .modifiedProgramId => "instruction illegally modified the program id of an account"
  | .externalAccountLamportSpend =>
    "instruction spent from the balance of an account it does not own"
  | .externalAccountDataModified => "instruction modified data of an account it does not own"
  | .readonlyLamportChange => "instruction changed the balance of a read-only account"
  | .readonlyDataModified => "instruction modified data of a read-only account"
  | .duplicateAccountIndex => "instruction contains duplicate accounts"
  | .executableModified => "instruction changed executable bit of an account"
  | .rentEpochModified => "instruction modified rent epoch of an account"
  | .notEnoughAccountKeys => "insufficient account keys for instruction"
  | .accountDataSizeChanged =>
    "program other than the account's owner changed the size of the account data"
  | .accountNotExecutable => "instruction expected an executable account"
  | .accountBorrowFailed =>
    "instruction tries to borrow reference for an account which is already borrowed"
  | .accountBorrowOutstanding => "instruction left account with an outstanding borrowed reference"
  | .duplicateAccountOutOfSync => "instruction modifications of multiply-passed account differ"
  | .invalidError => "program returned invalid error code"
  | .executableDataModified => "instruction changed executable accounts data"
  | .executableLamportChange => "instruction changed the balance of an executable account"
  | .executableAccountNotRentExempt => "executable accounts must be rent exempt"
  | .unsupportedProgramId => "Unsupported program id"
  | .callDepth => "Cross-program invocation call depth too deep"
  | .missingAccount => "An account required by the instruction is missing"
  | .reentrancyNotAllowed => "Cross-program invocation reentrancy not allowed for this instruction"
  | .maxSeedLengthExceeded => "Length of the seed is too long for address generation"
  | .invalidSeeds => "Provided seeds do not result in a valid address"
  | .invalidRealloc => "Failed to reallocate account data"
  | .computationalBudgetExceeded => "Computational budget exceeded"
  | .privilegeEscalation => "Cross-program invocation with unauthorized signer or writable account"
  | .programEnvironmentSetupFailure => "Failed to create program execution environment"
  | .programFailedToComplete => "Program failed to complete"
  | .programFailedToCompile => "Program failed to compile"
  | .immutable => "Account is immutable"
  | .incorrectAuthority => "Incorrect authority provided"
  | .accountNotRentExempt => "An account does not have enough lamports to be rent-exempt"
  | .invalidAccountOwner => "Invalid account owner"
  | .arithmeticOverflow => "Program arithmetic overflowed"
  | .unsupportedSysvar => "Unsupported sysvar"
  | .illegalOwner => "Provided owner is not allowed"
  | .maxAccountsDataAllocationsExceeded =>
    "Accounts data allocations exceeded the maximum allowed per transaction"
  | .maxAccountsExceeded => "Max accounts exceeded"
  | .maxInstructionTraceLengthExceeded => "Max instruction trace length exceeded"
  | .builtinProgramsMustConsumeComputeUnits => "Builtin programs must consume compute units"

/-- The one with a given code. -/
def ofCode? (code : String) : Option InstructionFault :=
  all.find? fun fault => fault.code == code

end InstructionFault

end LendingClient
