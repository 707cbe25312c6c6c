import IssuanceClient.Connection
import IssuanceClient.Json
import IssuanceClient.Text.Base64

/-!
The requests by which calls reach a node.
-/

namespace IssuanceClient.Rpc

/-- A method of a node and its arguments. -/
structure Request where
  method : String
  params : List Json
deriving Repr

namespace Request

/-- The request that carries a call, where `own` is the level at which the client reads. -/
def ofCall (own : Commitment) : Call → Request
  | .account address =>
      ⟨"getAccountInfo",
       [.string address.text,
        .object [("encoding", .string "base64+zstd"), ("dataSlice", .null),
          ("commitment", .string own.name), ("minContextSlot", .null)]]⟩
  | .latestBlockhash => ⟨"getLatestBlockhash", [.object [("commitment", .string own.name)]]⟩
  | .send transaction =>
      ⟨"sendTransaction",
       [.string (Base64.encode transaction.encode),
        .object [("skipPreflight", .bool false), ("preflightCommitment", .string own.name),
          ("encoding", .string "base64"), ("maxRetries", .null), ("minContextSlot", .null)]]⟩
  | .status signature _ => ⟨"getSignatureStatuses", [.array [.string signature.text]]⟩
  | .logs signature commitment =>
      ⟨"getTransaction",
       [.string signature.text,
        .object [("encoding", .string "json"), ("commitment", .string commitment.forLogs.name),
          ("maxSupportedTransactionVersion", .number 0)]]⟩

/-- The text of the first signature of the transaction that a request carries. -/
def firstSignature (request : Request) : String :=
  match request.params with
  | .string text :: _ => Base58.encode ((((Base64.decode? text).getD []).drop 1).take 64)
  | _ => ""

end Request

end IssuanceClient.Rpc
