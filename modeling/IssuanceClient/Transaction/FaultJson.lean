import IssuanceClient.Json.Choice
import IssuanceClient.Transaction.Fault

/-!
How a cluster writes the faults of transactions and the outcome of one.
-/

namespace IssuanceClient

open Json

/-- The reason of a fault in the account's data: a text, or no words at all where it is none. -/
def InstructionFault.reason : Reader String
  | _, string text => .ok text
  | _, _ => .ok ""

/-- The faults of instructions, each under its name. -/
def InstructionFault.cases : List (Case InstructionFault) :=
  [.bare "GenericError" genericError,
   .bare "InvalidArgument" invalidArgument,
   .bare "InvalidInstructionData" invalidInstructionData,
   .bare "InvalidAccountData" invalidAccountData,
   .bare "AccountDataTooSmall" accountDataTooSmall,
   .bare "InsufficientFunds" insufficientFunds,
   .bare "IncorrectProgramId" incorrectProgramId,
   .bare "MissingRequiredSignature" missingRequiredSignature,
   .bare "AccountAlreadyInitialized" accountAlreadyInitialized,
   .bare "UninitializedAccount" uninitializedAccount,
   .bare "UnbalancedInstruction" unbalancedInstruction,
   .bare "ModifiedProgramId" modifiedProgramId,
   .bare "ExternalAccountLamportSpend" externalAccountLamportSpend,
   .bare "ExternalAccountDataModified" externalAccountDataModified,
   .bare "ReadonlyLamportChange" readonlyLamportChange,
   .bare "ReadonlyDataModified" readonlyDataModified,
   .bare "DuplicateAccountIndex" duplicateAccountIndex,
   .bare "ExecutableModified" executableModified,
   .bare "RentEpochModified" rentEpochModified,
   .bare "NotEnoughAccountKeys" notEnoughAccountKeys,
   .bare "AccountDataSizeChanged" accountDataSizeChanged,
   .bare "AccountNotExecutable" accountNotExecutable,
   .bare "AccountBorrowFailed" accountBorrowFailed,
   .bare "AccountBorrowOutstanding" accountBorrowOutstanding,
   .bare "DuplicateAccountOutOfSync" duplicateAccountOutOfSync,
   .carrying "Custom" Reader.halfWord custom,
   .bare "InvalidError" invalidError,
   .bare "ExecutableDataModified" executableDataModified,
   .bare "ExecutableLamportChange" executableLamportChange,
   .bare "ExecutableAccountNotRentExempt" executableAccountNotRentExempt,
   .bare "UnsupportedProgramId" unsupportedProgramId,
   .bare "CallDepth" callDepth,
   .bare "MissingAccount" missingAccount,
   .bare "ReentrancyNotAllowed" reentrancyNotAllowed,
   .bare "MaxSeedLengthExceeded" maxSeedLengthExceeded,
   .bare "InvalidSeeds" invalidSeeds,
   .bare "InvalidRealloc" invalidRealloc,
   .bare "ComputationalBudgetExceeded" computationalBudgetExceeded,
   .bare "PrivilegeEscalation" privilegeEscalation,
   .bare "ProgramEnvironmentSetupFailure" programEnvironmentSetupFailure,
   .bare "ProgramFailedToComplete" programFailedToComplete,
   .bare "ProgramFailedToCompile" programFailedToCompile,
   .bare "Immutable" immutable,
   .bare "IncorrectAuthority" incorrectAuthority,
   .carryingAny "BorshIoError" InstructionFault.reason dataEncoding,
   .bare "AccountNotRentExempt" accountNotRentExempt,
   .bare "InvalidAccountOwner" invalidAccountOwner,
   .bare "ArithmeticOverflow" arithmeticOverflow,
   .bare "UnsupportedSysvar" unsupportedSysvar,
   .bare "IllegalOwner" illegalOwner,
   .bare "MaxAccountsDataAllocationsExceeded" maxAccountsDataAllocationsExceeded,
   .bare "MaxAccountsExceeded" maxAccountsExceeded,
   .bare "MaxInstructionTraceLengthExceeded" maxInstructionTraceLengthExceeded,
   .bare "BuiltinProgramsMustConsumeComputeUnits" builtinProgramsMustConsumeComputeUnits]

/-- Reads the fault of an instruction. -/
def InstructionFault.reader : Reader InstructionFault := Reader.choice InstructionFault.cases

/-- The index of the account that a fault is about. -/
def TransactionFault.accountIndex : Slot Nat := .required "account_index" Reader.octet

/-- The faults of transactions, each under its name. -/
def TransactionFault.cases : List (Case TransactionFault) :=
  [.bare "AccountInUse" accountInUse,
   .bare "AccountLoadedTwice" accountLoadedTwice,
   .bare "AccountNotFound" accountNotFound,
   .bare "ProgramAccountNotFound" programAccountNotFound,
   .bare "InsufficientFundsForFee" insufficientFundsForFee,
   .bare "InvalidAccountForFee" invalidAccountForFee,
   .bare "AlreadyProcessed" alreadyProcessed,
   .bare "BlockhashNotFound" blockhashNotFound,
   .carryingPair "TransactionError" "InstructionError" Reader.octet InstructionFault.reader
      instruction,
   .bare "CallChainTooDeep" callChainTooDeep,
   .bare "MissingSignatureForFee" missingSignatureForFee,
   .bare "InvalidAccountIndex" invalidAccountIndex,
   .bare "SignatureFailure" signatureFailure,
   .bare "InvalidProgramForExecution" invalidProgramForExecution,
   .bare "SanitizeFailure" sanitizeFailure,
   .bare "ClusterMaintenance" clusterMaintenance,
   .bare "AccountBorrowOutstanding" accountBorrowOutstanding,
   .bare "WouldExceedMaxBlockCostLimit" wouldExceedMaxBlockCostLimit,
   .bare "UnsupportedVersion" unsupportedVersion,
   .bare "InvalidWritableAccount" invalidWritableAccount,
   .bare "WouldExceedMaxAccountCostLimit" wouldExceedMaxAccountCostLimit,
   .bare "WouldExceedAccountDataBlockLimit" wouldExceedAccountDataBlockLimit,
   .bare "TooManyAccountLocks" tooManyAccountLocks,
   .bare "AddressLookupTableNotFound" addressLookupTableNotFound,
   .bare "InvalidAddressLookupTableOwner" invalidAddressLookupTableOwner,
   .bare "InvalidAddressLookupTableData" invalidAddressLookupTableData,
   .bare "InvalidAddressLookupTableIndex" invalidAddressLookupTableIndex,
   .bare "InvalidRentPayingAccount" invalidRentPayingAccount,
   .bare "WouldExceedMaxVoteCostLimit" wouldExceedMaxVoteCostLimit,
   .bare "WouldExceedAccountDataTotalLimit" wouldExceedAccountDataTotalLimit,
   .carrying "DuplicateInstruction" Reader.octet duplicateInstruction,
   .carryingField "TransactionError" "InsufficientFundsForRent" accountIndex
      insufficientFundsForRent,
   .bare "MaxLoadedAccountsDataSizeExceeded" maxLoadedAccountsDataSizeExceeded,
   .bare "InvalidLoadedAccountsDataSizeLimit" invalidLoadedAccountsDataSizeLimit,
   .bare "ResanitizationNeeded" resanitizationNeeded,
   .carryingField "TransactionError" "ProgramExecutionTemporarilyRestricted" accountIndex
      temporarilyRestricted,
   .bare "UnbalancedTransaction" unbalancedTransaction,
   .bare "ProgramCacheHitMaxLimit" programCacheHitMaxLimit,
   .bare "CommitCancelled" commitCancelled]

/-- Reads the fault of a transaction. -/
def TransactionFault.reader : Reader TransactionFault := Reader.choice TransactionFault.cases

/-- Reads the outcome of a transaction: nothing to say, or a fault. -/
def TransactionFault.outcome : Reader (Except TransactionFault Unit) :=
  Reader.choice [.carrying "Ok" Reader.nothing .ok, .carrying "Err" TransactionFault.reader .error]

end IssuanceClient
