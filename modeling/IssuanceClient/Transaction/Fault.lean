/-!
Why a cluster did not execute a transaction, or an instruction of it, and how messages word it.  The
faults stand in the cluster's own order.
-/

namespace IssuanceClient

/-- Why an instruction failed. -/
inductive InstructionFault
  | genericError
  | invalidArgument
  | invalidInstructionData
  | invalidAccountData
  | accountDataTooSmall
  | insufficientFunds
  | incorrectProgramId
  | missingRequiredSignature
  | accountAlreadyInitialized
  | uninitializedAccount
  | unbalancedInstruction
  | modifiedProgramId
  | externalAccountLamportSpend
  | externalAccountDataModified
  | readonlyLamportChange
  | readonlyDataModified
  | duplicateAccountIndex
  | executableModified
  | rentEpochModified
  | notEnoughAccountKeys
  | accountDataSizeChanged
  | accountNotExecutable
  | accountBorrowFailed
  | accountBorrowOutstanding
  | duplicateAccountOutOfSync
  /-- A code that only the program itself can explain. -/
  | custom (code : Nat)
  | invalidError
  | executableDataModified
  | executableLamportChange
  | executableAccountNotRentExempt
  | unsupportedProgramId
  | callDepth
  | missingAccount
  | reentrancyNotAllowed
  | maxSeedLengthExceeded
  | invalidSeeds
  | invalidRealloc
  | computationalBudgetExceeded
  | privilegeEscalation
  | programEnvironmentSetupFailure
  | programFailedToComplete
  | programFailedToCompile
  | immutable
  | incorrectAuthority
  | dataEncoding (reason : String)
  | accountNotRentExempt
  | invalidAccountOwner
  | arithmeticOverflow
  | unsupportedSysvar
  | illegalOwner
  | maxAccountsDataAllocationsExceeded
  | maxAccountsExceeded
  | maxInstructionTraceLengthExceeded
  | builtinProgramsMustConsumeComputeUnits
deriving DecidableEq, Repr

/-- Why a transaction failed. -/
inductive TransactionFault
  | accountInUse
  | accountLoadedTwice
  | accountNotFound
  | programAccountNotFound
  | insufficientFundsForFee
  | invalidAccountForFee
  | alreadyProcessed
  | blockhashNotFound
  /-- An instruction failed, the one with the given index. -/
  | instruction (index : Nat) (fault : InstructionFault)
  | callChainTooDeep
  | missingSignatureForFee
  | invalidAccountIndex
  | signatureFailure
  | invalidProgramForExecution
  | sanitizeFailure
  | clusterMaintenance
  | accountBorrowOutstanding
  | wouldExceedMaxBlockCostLimit
  | unsupportedVersion
  | invalidWritableAccount
  | wouldExceedMaxAccountCostLimit
  | wouldExceedAccountDataBlockLimit
  | tooManyAccountLocks
  | addressLookupTableNotFound
  | invalidAddressLookupTableOwner
  | invalidAddressLookupTableData
  | invalidAddressLookupTableIndex
  | invalidRentPayingAccount
  | wouldExceedMaxVoteCostLimit
  | wouldExceedAccountDataTotalLimit
  | duplicateInstruction (index : Nat)
  | insufficientFundsForRent (account : Nat)
  | maxLoadedAccountsDataSizeExceeded
  | invalidLoadedAccountsDataSizeLimit
  | resanitizationNeeded
  | temporarilyRestricted (account : Nat)
  | unbalancedTransaction
  | programCacheHitMaxLimit
  | commitCancelled
deriving DecidableEq, Repr

def InstructionFault.message : InstructionFault → String
  | genericError => "generic instruction error"
  | invalidArgument => "invalid program argument"
  | invalidInstructionData => "invalid instruction data"
  | invalidAccountData => "invalid account data for instruction"
  | accountDataTooSmall => "account data too small for instruction"
  | insufficientFunds => "insufficient funds for instruction"
  | incorrectProgramId => "incorrect program id for instruction"
  | missingRequiredSignature => "missing required signature for instruction"
  | accountAlreadyInitialized => "instruction requires an uninitialized account"
  | uninitializedAccount => "instruction requires an initialized account"
  | unbalancedInstruction => "sum of account balances before and after instruction do not match"
  | modifiedProgramId => "instruction illegally modified the program id of an account"
  | externalAccountLamportSpend =>
      "instruction spent from the balance of an account it does not own"
  | externalAccountDataModified => "instruction modified data of an account it does not own"
  | readonlyLamportChange => "instruction changed the balance of a read-only account"
  | readonlyDataModified => "instruction modified data of a read-only account"
  | duplicateAccountIndex => "instruction contains duplicate accounts"
  | executableModified => "instruction changed executable bit of an account"
  | rentEpochModified => "instruction modified rent epoch of an account"
  | notEnoughAccountKeys => "insufficient account keys for instruction"
  | accountDataSizeChanged =>
      "program other than the account's owner changed the size of the account data"
  | accountNotExecutable => "instruction expected an executable account"
  | accountBorrowFailed =>
      "instruction tries to borrow reference for an account which is already borrowed"
  | accountBorrowOutstanding => "instruction left account with an outstanding borrowed reference"
  | duplicateAccountOutOfSync => "instruction modifications of multiply-passed account differ"
  | custom code => "custom program error: 0x" ++ String.ofList (Nat.toDigits 16 code)
  | invalidError => "program returned invalid error code"
  | executableDataModified => "instruction changed executable accounts data"
  | executableLamportChange => "instruction changed the balance of an executable account"
  | executableAccountNotRentExempt => "executable accounts must be rent exempt"
  | unsupportedProgramId => "Unsupported program id"
  | callDepth => "Cross-program invocation call depth too deep"
  | missingAccount => "An account required by the instruction is missing"
  | reentrancyNotAllowed => "Cross-program invocation reentrancy not allowed for this instruction"
  | maxSeedLengthExceeded => "Length of the seed is too long for address generation"
  | invalidSeeds => "Provided seeds do not result in a valid address"
  | invalidRealloc => "Failed to reallocate account data"
  | computationalBudgetExceeded => "Computational budget exceeded"
  | privilegeEscalation => "Cross-program invocation with unauthorized signer or writable account"
  | programEnvironmentSetupFailure => "Failed to create program execution environment"
  | programFailedToComplete => "Program failed to complete"
  | programFailedToCompile => "Program failed to compile"
  | immutable => "Account is immutable"
  | incorrectAuthority => "Incorrect authority provided"
  | dataEncoding reason => "Failed to serialize or deserialize account data: " ++ reason
  | accountNotRentExempt => "An account does not have enough lamports to be rent-exempt"
  | invalidAccountOwner => "Invalid account owner"
  | arithmeticOverflow => "Program arithmetic overflowed"
  | unsupportedSysvar => "Unsupported sysvar"
  | illegalOwner => "Provided owner is not allowed"
  | maxAccountsDataAllocationsExceeded =>
      "Accounts data allocations exceeded the maximum allowed per transaction"
  | maxAccountsExceeded => "Max accounts exceeded"
  | maxInstructionTraceLengthExceeded => "Max instruction trace length exceeded"
  | builtinProgramsMustConsumeComputeUnits => "Builtin programs must consume compute units"

def TransactionFault.message : TransactionFault → String
  | accountInUse => "Account in use"
  | accountLoadedTwice => "Account loaded twice"
  | accountNotFound => "Attempt to debit an account but found no record of a prior credit."
  | programAccountNotFound => "Attempt to load a program that does not exist"
  | insufficientFundsForFee => "Insufficient funds for fee"
  | invalidAccountForFee => "This account may not be used to pay transaction fees"
  | alreadyProcessed => "This transaction has already been processed"
  | blockhashNotFound => "Blockhash not found"
  | instruction index fault => s!"Error processing Instruction {index}: " ++ fault.message
  | callChainTooDeep => "Loader call chain is too deep"
  | missingSignatureForFee => "Transaction requires a fee but has no signature present"
  | invalidAccountIndex => "Transaction contains an invalid account reference"
  | signatureFailure => "Transaction did not pass signature verification"
  | invalidProgramForExecution => "This program may not be used for executing instructions"
  | sanitizeFailure => "Transaction failed to sanitize accounts offsets correctly"
  | clusterMaintenance => "Transactions are currently disabled due to cluster maintenance"
  | accountBorrowOutstanding =>
      "Transaction processing left an account with an outstanding borrowed reference"
  | wouldExceedMaxBlockCostLimit => "Transaction would exceed max Block Cost Limit"
  | unsupportedVersion => "Transaction version is unsupported"
  | invalidWritableAccount => "Transaction loads a writable account that cannot be written"
  | wouldExceedMaxAccountCostLimit => "Transaction would exceed max account limit within the block"
  | wouldExceedAccountDataBlockLimit =>
      "Transaction would exceed account data limit within the block"
  | tooManyAccountLocks => "Transaction locked too many accounts"
  | addressLookupTableNotFound => "Transaction loads an address table account that doesn't exist"
  | invalidAddressLookupTableOwner =>
      "Transaction loads an address table account with an invalid owner"
  | invalidAddressLookupTableData => "Transaction loads an address table account with invalid data"
  | invalidAddressLookupTableIndex => "Transaction address table lookup uses an invalid index"
  | invalidRentPayingAccount =>
      "Transaction leaves an account with a lower balance than rent-exempt minimum"
  | wouldExceedMaxVoteCostLimit => "Transaction would exceed max Vote Cost Limit"
  | wouldExceedAccountDataTotalLimit => "Transaction would exceed total account data limit"
  | duplicateInstruction index =>
      s!"Transaction contains a duplicate instruction ({index}) that is not allowed"
  | insufficientFundsForRent account =>
      s!"Transaction results in an account ({account}) with insufficient funds for rent"
  | maxLoadedAccountsDataSizeExceeded => "Transaction exceeded max loaded accounts data size cap"
  | invalidLoadedAccountsDataSizeLimit =>
      "LoadedAccountsDataSizeLimit set for transaction must be greater than 0."
  | resanitizationNeeded => "ResanitizationNeeded"
  | temporarilyRestricted account =>
      s!"Execution of the program referenced by account at index {account} is temporarily " ++
        "restricted."
  | unbalancedTransaction => "Sum of account balances before and after transaction do not match"
  | programCacheHitMaxLimit => "Program cache hit max limit"
  | commitCancelled => "CommitCancelled"

end IssuanceClient
