/-!
# Transaction faults

The faults without further detail with which the ledger refuses a transaction as a whole. Each has
a code, which the ledger sends, and a message.
-/

namespace LendingClient

/-- A fault of a transaction that carries no detail. -/
inductive TransactionFault where
  | accountInUse
  | accountLoadedTwice
  | accountNotFound
  | programAccountNotFound
  | insufficientFundsForFee
  | invalidAccountForFee
  | alreadyProcessed
  | blockhashNotFound
  | callChainTooDeep
  | missingSignatureForFee
  | invalidAccountIndex
  | signatureFailure
  | invalidProgramForExecution
  | sanitizeFailure
  | clusterMaintenance
  | accountBorrowOutstanding
  | wouldExceedMaxBlockCostLimit
  | unsupportedVersion
  | invalidWritableAccount
  | wouldExceedMaxAccountCostLimit
  | wouldExceedAccountDataBlockLimit
  | tooManyAccountLocks
  | addressLookupTableNotFound
  | invalidAddressLookupTableOwner
  | invalidAddressLookupTableData
  | invalidAddressLookupTableIndex
  | invalidRentPayingAccount
  | wouldExceedMaxVoteCostLimit
  | wouldExceedAccountDataTotalLimit
  | maxLoadedAccountsDataSizeExceeded
  | invalidLoadedAccountsDataSizeLimit
  | resanitizationNeeded
  | unbalancedTransaction
  | programCacheHitMaxLimit
  | commitCancelled
deriving DecidableEq

namespace TransactionFault

/-- Every one of them. -/
def all : List TransactionFault :=
  [.accountInUse, .accountLoadedTwice, .accountNotFound, .programAccountNotFound,
   .insufficientFundsForFee, .invalidAccountForFee, .alreadyProcessed, .blockhashNotFound,
   .callChainTooDeep, .missingSignatureForFee, .invalidAccountIndex, .signatureFailure,
   .invalidProgramForExecution, .sanitizeFailure, .clusterMaintenance, .accountBorrowOutstanding,
   .wouldExceedMaxBlockCostLimit, .unsupportedVersion, .invalidWritableAccount,
   .wouldExceedMaxAccountCostLimit, .wouldExceedAccountDataBlockLimit, .tooManyAccountLocks,
   .addressLookupTableNotFound, .invalidAddressLookupTableOwner, .invalidAddressLookupTableData,
   .invalidAddressLookupTableIndex, .invalidRentPayingAccount, .wouldExceedMaxVoteCostLimit,
   .wouldExceedAccountDataTotalLimit, .maxLoadedAccountsDataSizeExceeded,
   .invalidLoadedAccountsDataSizeLimit, .resanitizationNeeded, .unbalancedTransaction,
   .programCacheHitMaxLimit, .commitCancelled]

/-- The ledger's code for it. -/
def code : TransactionFault → String
  | .accountInUse => "AccountInUse"
  | .accountLoadedTwice => "AccountLoadedTwice"
  | .accountNotFound => "AccountNotFound"
  | .programAccountNotFound => "ProgramAccountNotFound"
  | .insufficientFundsForFee => "InsufficientFundsForFee"
  | .invalidAccountForFee => "InvalidAccountForFee"
  | .alreadyProcessed => "AlreadyProcessed"
  | .blockhashNotFound => "BlockhashNotFound"
  | .callChainTooDeep => "CallChainTooDeep"
  | .missingSignatureForFee => "MissingSignatureForFee"
  | .invalidAccountIndex => "InvalidAccountIndex"
  | .signatureFailure => "SignatureFailure"
  | .invalidProgramForExecution => "InvalidProgramForExecution"
  | .sanitizeFailure => "SanitizeFailure"
  | .clusterMaintenance => "ClusterMaintenance"
  | .accountBorrowOutstanding => "AccountBorrowOutstanding"
  | .wouldExceedMaxBlockCostLimit => "WouldExceedMaxBlockCostLimit"
  | .unsupportedVersion => "UnsupportedVersion"
  | .invalidWritableAccount => "InvalidWritableAccount"
  | .wouldExceedMaxAccountCostLimit => "WouldExceedMaxAccountCostLimit"
  | .wouldExceedAccountDataBlockLimit => "WouldExceedAccountDataBlockLimit"
  | .tooManyAccountLocks => "TooManyAccountLocks"
  | .addressLookupTableNotFound => "AddressLookupTableNotFound"
  | .invalidAddressLookupTableOwner => "InvalidAddressLookupTableOwner"
  | .invalidAddressLookupTableData => "InvalidAddressLookupTableData"
  | .invalidAddressLookupTableIndex => "InvalidAddressLookupTableIndex"
  | .invalidRentPayingAccount => "InvalidRentPayingAccount"
  | .wouldExceedMaxVoteCostLimit => "WouldExceedMaxVoteCostLimit"
  | .wouldExceedAccountDataTotalLimit => "WouldExceedAccountDataTotalLimit"
  | .maxLoadedAccountsDataSizeExceeded => "MaxLoadedAccountsDataSizeExceeded"
  | .invalidLoadedAccountsDataSizeLimit => "InvalidLoadedAccountsDataSizeLimit"
  | .resanitizationNeeded => "ResanitizationNeeded"
  | .unbalancedTransaction => "UnbalancedTransaction"
  | .programCacheHitMaxLimit => "ProgramCacheHitMaxLimit"
  | .commitCancelled => "CommitCancelled"

/-- What it says to a person. -/
def message : TransactionFault → String
  | .accountInUse => "Account in use"
  | .accountLoadedTwice => "Account loaded twice"
  | .accountNotFound => "Attempt to debit an account but found no record of a prior credit."
  | .programAccountNotFound => "Attempt to load a program that does not exist"
  | .insufficientFundsForFee => "Insufficient funds for fee"
  | .invalidAccountForFee => "This account may not be used to pay transaction fees"
  | .alreadyProcessed => "This transaction has already been processed"
  | .blockhashNotFound => "Blockhash not found"
  | .callChainTooDeep => "Loader call chain is too deep"
  | .missingSignatureForFee => "Transaction requires a fee but has no signature present"
  | .invalidAccountIndex => "Transaction contains an invalid account reference"
  | .signatureFailure => "Transaction did not pass signature verification"
  | .invalidProgramForExecution => "This program may not be used for executing instructions"
  | .sanitizeFailure => "Transaction failed to sanitize accounts offsets correctly"
  | .clusterMaintenance => "Transactions are currently disabled due to cluster maintenance"
  | .accountBorrowOutstanding =>
    "Transaction processing left an account with an outstanding borrowed reference"
  | .wouldExceedMaxBlockCostLimit => "Transaction would exceed max Block Cost Limit"
  | .unsupportedVersion => "Transaction version is unsupported"
  | .invalidWritableAccount => "Transaction loads a writable account that cannot be written"
  | .wouldExceedMaxAccountCostLimit => "Transaction would exceed max account limit within the block"
  | .wouldExceedAccountDataBlockLimit =>
    "Transaction would exceed account data limit within the block"
  | .tooManyAccountLocks => "Transaction locked too many accounts"
  | .addressLookupTableNotFound => "Transaction loads an address table account that doesn't exist"
  | .invalidAddressLookupTableOwner =>
    "Transaction loads an address table account with an invalid owner"
  | .invalidAddressLookupTableData => "Transaction loads an address table account with invalid data"
  | .invalidAddressLookupTableIndex => "Transaction address table lookup uses an invalid index"
  | .invalidRentPayingAccount =>
    "Transaction leaves an account with a lower balance than rent-exempt minimum"
  | .wouldExceedMaxVoteCostLimit => "Transaction would exceed max Vote Cost Limit"
  | .wouldExceedAccountDataTotalLimit => "Transaction would exceed total account data limit"
  | .maxLoadedAccountsDataSizeExceeded => "Transaction exceeded max loaded accounts data size cap"
  | .invalidLoadedAccountsDataSizeLimit =>
    "LoadedAccountsDataSizeLimit set for transaction must be greater than 0."
  | .resanitizationNeeded => "ResanitizationNeeded"
  | .unbalancedTransaction => "Sum of account balances before and after transaction do not match"
  | .programCacheHitMaxLimit => "Program cache hit max limit"
  | .commitCancelled => "CommitCancelled"

/-- The one with a given code. -/
def ofCode? (code : String) : Option TransactionFault :=
  all.find? fun fault => fault.code == code

end TransactionFault

end LendingClient
