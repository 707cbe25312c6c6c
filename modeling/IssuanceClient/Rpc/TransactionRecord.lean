import IssuanceClient.Transaction.FaultJson

/-!
Transactions as a node keeps them, with what happened when they were executed.  A client reads only
the log lines, but a record of which any part is malformed counts as malformed.
-/

namespace IssuanceClient.Rpc.TransactionRecord

open Json

/-! Instructions. -/

/-- The depth of the stack at which an instruction ran. -/
def stackHeight : Slot Unit := (Slot.nullable "stackHeight" Reader.halfWord).form

/-- An instruction that refers to the keys of its message by position. -/
def compiledInstruction : Reader Unit :=
  Reader.form "UiCompiledInstruction"
    [.required "programIdIndex" Reader.octet.accept, .required "accounts" Reader.octet.list.accept,
     .required "data" Reader.text.accept, stackHeight]

/-- An instruction that the node has made sense of. -/
def explainedInstruction : Reader Unit :=
  Reader.form "ParsedInstruction"
    [.required "program" Reader.text.accept, .required "programId" Reader.text.accept,
     .required "parsed" Reader.any, stackHeight]

/-- An instruction whose keys the node has filled in. -/
def resolvedInstruction : Reader Unit :=
  Reader.form "UiPartiallyDecodedInstruction"
    [.required "programId" Reader.text.accept, .required "accounts" Reader.text.list.accept,
     .required "data" Reader.text.accept, stackHeight]

def instruction : Reader Unit :=
  Reader.alternatives "UiInstruction"
    [compiledInstruction,
     Reader.alternatives "UiParsedInstruction" [explainedInstruction, resolvedInstruction]]

/-! Messages. -/

/-- The keys that a message takes from a table of addresses. -/
def tableLookup : Reader Unit :=
  Reader.form "UiAddressTableLookup"
    [.required "accountKey" Reader.text.accept,
     .required "writableIndexes" Reader.octet.list.accept,
     .required "readonlyIndexes" Reader.octet.list.accept]

def tableLookups : Slot Unit := (Slot.optional "addressTableLookups" tableLookup.list).form

def header : Reader Unit :=
  Reader.form "MessageHeader"
    [.required "numRequiredSignatures" Reader.octet.accept,
     .required "numReadonlySignedAccounts" Reader.octet.accept,
     .required "numReadonlyUnsignedAccounts" Reader.octet.accept]

/-- A key of a message with its rights. -/
def explainedKey : Reader Unit :=
  Reader.form "ParsedAccount"
    [.required "pubkey" Reader.text.accept, .required "writable" Reader.boolean.accept,
     .required "signer" Reader.boolean.accept,
     (Slot.nullable "source"
       (Reader.choice [.bare "transaction" (), .bare "lookupTable" ()])).form]

def message : Reader Unit :=
  Reader.form "UiRawMessage"
    [.required "header" header, .required "accountKeys" Reader.text.list.accept,
     .required "recentBlockhash" Reader.text.accept,
     .required "instructions" compiledInstruction.list.accept, tableLookups]

def explainedMessage : Reader Unit :=
  Reader.form "UiParsedMessage"
    [.required "accountKeys" explainedKey.list.accept,
     .required "recentBlockhash" Reader.text.accept,
     .required "instructions" instruction.list.accept, tableLookups]

/-! Transactions. -/

/-- The signatures of a transaction and its message. -/
def signedMessage : Reader Unit :=
  Reader.form "UiTransaction"
    [.required "signatures" Reader.text.list.accept,
     .required "message" (Reader.alternatives "UiMessage" [explainedMessage, message])]

/-- The signatures of a transaction and its keys alone. -/
def signedKeys : Reader Unit :=
  Reader.form "UiAccountsList"
    [.required "signatures" Reader.text.list.accept,
     .required "accountKeys" explainedKey.list.accept]

/-- The encodings in which a node may write a whole transaction. -/
def encoding : Reader Unit := Reader.choice [.bare "base64" (), .bare "base58" ()]

def transaction : Reader Unit :=
  Reader.alternatives "EncodedTransaction"
    [Reader.text.accept, (Reader.pair Reader.text encoding).accept, signedMessage, signedKeys]

/-- The version of a message's format. -/
def version : Reader Unit :=
  Reader.alternatives "TransactionVersion"
    [Reader.choice [.bare "legacy" ()], Reader.octet.accept]

/-! What happened when a transaction was executed. -/

/-- The instructions that an instruction called. -/
def innerInstructions : Reader Unit :=
  Reader.form "UiInnerInstructions"
    [.required "index" Reader.octet.accept, .required "instructions" instruction.list.accept]

def tokenAmount : Reader Unit :=
  Reader.form "UiTokenAmount"
    [(Slot.nullable "uiAmount" Reader.anyNumber).form, .required "decimals" Reader.octet.accept,
     .required "amount" Reader.text.accept, .required "uiAmountString" Reader.text.accept]

def tokenBalance : Reader Unit :=
  Reader.form "UiTransactionTokenBalance"
    [.required "accountIndex" Reader.octet.accept, .required "mint" Reader.text.accept,
     .required "uiTokenAmount" tokenAmount, (Slot.optional "owner" Reader.text).form,
     (Slot.optional "programId" Reader.text).form]

def reward : Reader Unit :=
  Reader.form "Reward"
    [.required "pubkey" Reader.text.accept, .required "lamports" Reader.signedWord.accept,
     .required "postBalance" Reader.word.accept,
     (Slot.nullable "rewardType" (Reader.choice
       [.bare "Fee" (), .bare "Rent" (), .bare "Staking" (), .bare "Voting" ()])).form,
     (Slot.nullable "commission" Reader.octet).form]

/-- The keys that were taken from tables of addresses. -/
def loadedAddresses : Reader Unit :=
  Reader.form "UiLoadedAddresses"
    [.required "writable" Reader.text.list.accept, .required "readonly" Reader.text.list.accept]

/-- The data that a program returned. -/
def returnData : Reader Unit :=
  Reader.form "UiTransactionReturnData"
    [.required "programId" Reader.text.accept,
     .required "data" (Reader.pair Reader.text (Reader.choice [.bare "base64" ()])).accept]

/-- The log lines, where the node kept them. -/
def logMessages : Slot (Option (List String)) := .optional "logMessages" Reader.text.list

/-- What happened, of which the log lines are kept. -/
def execution : Reader (Option (List String)) :=
  Reader.record "UiTransactionStatusMeta"
    [(Slot.nullable "err" TransactionFault.reader).form,
     .required "status" TransactionFault.outcome.accept, .required "fee" Reader.word.accept,
     .required "preBalances" Reader.word.list.accept,
     .required "postBalances" Reader.word.list.accept,
     (Slot.optional "innerInstructions" innerInstructions.list).form, logMessages.form,
     (Slot.optional "preTokenBalances" tokenBalance.list).form,
     (Slot.optional "postTokenBalances" tokenBalance.list).form,
     (Slot.optional "rewards" reward.list).form,
     (Slot.optional "loadedAddresses" loadedAddresses).form,
     (Slot.optional "returnData" returnData).form,
     (Slot.optional "computeUnitsConsumed" Reader.word).form,
     (Slot.optional "costUnits" Reader.word).form]
    logMessages.get

/-- What happened to a transaction, where the node kept that. -/
def executionField : Slot (Option (Option (List String))) := .nullable "meta" execution

/-- The log lines of a transaction, where the node kept them. -/
def logs : Reader (Option (List String)) :=
  Reader.merged "EncodedConfirmedTransactionWithStatusMeta"
    [.required "slot" Reader.word.accept, (Slot.nullable "blockTime" Reader.signedWord).form]
    [.required "transaction" transaction, executionField.form,
     (Slot.optional "version" version).form]
    fun source members => do return (← executionField.get source members).join

end IssuanceClient.Rpc.TransactionRecord
