import IssuanceClient.Rpc.AccountRecord
import IssuanceClient.Rpc.Envelope
import IssuanceClient.Rpc.Fault
import IssuanceClient.Rpc.Request
import IssuanceClient.Rpc.StatusRecord
import IssuanceClient.Rpc.TransactionRecord

/-!
Reading the results of requests.
-/

namespace IssuanceClient.Rpc

open Json

/-- What came back for a request. -/
abbrev Response := Except Fault Json

/-- The value that a result stands for. -/
def readResult {α : Type} (reader : Reader α) (json : Json) : Except Fault α :=
  (reader .document json).mapError .malformed

/-- The account at an address. -/
def readAccount (address : Key) (response : Response) : Except Fault (Option Account) := do
  let notFound := "AccountNotFound: pubkey=" ++ address.text
  match response with
  | .error fault => throw (.forUser (notFound ++ ": " ++ fault.message))
  | .ok .null => throw (.forUser notFound)
  | .ok json =>
      let account ← readResult (inContext (.nullable "value" AccountRecord.account)) json
      return account.join

/-- The hash of a block, which goes with the height up to which it is valid. -/
def blockhash : Reader String :=
  let hash : Slot String := .required "blockhash" Reader.text
  Reader.record "RpcBlockhash"
    [hash.form, .required "lastValidBlockHeight" Reader.word.accept] hash.get

def readBlockhash (response : Response) : Except Fault Blockhash := do
  let text ← readResult (inContext (.required "value" blockhash)) (← response)
  (keyOfText text).mapError fun _ => .unparsed "Hash"

/-- The signature under which a transaction was taken on, which must be its own first one. -/
def readSent (transaction : Transaction) (response : Response) : Except Fault Signature := do
  let text ← readResult Reader.text (← response)
  let signature ← (signatureOfText text).mapError fun fault => .unparsed fault.signatureMessage
  let own := transaction.signatures.headD Signature.missing
  if signature = own then return signature
  else
    throw (.request ("RPC node returned mismatched signature " ++ signature.text ++
      ", expected " ++ own.text))

/-- The status of the one transaction that was asked about, if it has reached the commitment.  A
node gives one status, or null, for each signature it is asked about, so here the list has one item.
A client takes the first item without a look at the length and panics on an empty list; such a panic
is not modelled, and here an empty list brings no status. -/
def readStatus (commitment : Commitment) (response : Response) :
    Except Fault (Option Status) := do
  let statuses ←
    readResult (inContext (.required "value" StatusRecord.reader.nullable.list)) (← response)
  match statuses with
  | some status :: _ => return if status.reached commitment then some status.outcome else none
  | _ => return none

/-- The log lines of a transaction, where the node kept them. -/
def readLogs (response : Response) : Except Fault (Option (List String)) := do
  readResult TransactionRecord.logs (← response)

end IssuanceClient.Rpc
