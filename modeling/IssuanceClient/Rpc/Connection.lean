import IssuanceClient.Rpc.Result

/-!
A connection over requests to a node.  Each call is one request; a transport carries it and brings
back what the node answers.
-/

namespace IssuanceClient.Rpc

/-- What a transport brings back, and how long it takes. -/
structure Delivery where
  delay : Nat
  response : Response

/-- Something that carries requests, each in the light of the calls before it. -/
structure Transport where
  carry : List TimedCall → Request → Delivery
  /-- See `Connection.patience`. -/
  patience : Nat

/-- The reply to a call whose response is read by `read`. -/
def reply {α : Type} (delivery : Delivery) (read : Response → Except Fault α)
    (toFailure : Fault → Failure) : Reply α :=
  ⟨delivery.delay, (read delivery.response).mapError toFailure⟩

/-- The connection that a transport makes for a client that reads at the level `own`. -/
def connection (own : Commitment) (transport : Transport) : Connection where
  account calls address :=
    reply (transport.carry calls (.ofCall own (.account address))) (readAccount address)
      Fault.toFailure
  latestBlockhash calls :=
    reply (transport.carry calls (.ofCall own .latestBlockhash)) readBlockhash Fault.toFailure
  send calls transaction :=
    reply (transport.carry calls (.ofCall own (.send transaction))) (readSent transaction)
      (Fault.toRejection transaction.signatures.head?)
  status calls signature commitment :=
    reply (transport.carry calls (.ofCall own (.status signature commitment)))
      (readStatus commitment) Fault.toFailure
  logs calls signature commitment :=
    reply (transport.carry calls (.ofCall own (.logs signature commitment))) readLogs
      Fault.toFailure
  patience := transport.patience

/-- A prepared answer to a request: a response, or the first signature of the transaction that the
request carries. -/
inductive Answer
  | response (response : Response)
  | ownSignature

/-- The response that a prepared answer is to a request. -/
def Answer.toResponse (request : Request) : Answer → Response
  | response value => value
  | ownSignature => .ok (.string request.firstSignature)

/-- The transport that gives prepared answers in turn, each after sleeping through its delay, and
fails once they are used up. -/
def prepared (answers : List (Nat × Answer)) : Transport where
  carry calls request :=
    match answers[calls.length]? with
    | some (delay, answer) => ⟨sleepTime delay, answer.toResponse request⟩
    | none => ⟨0, .error (.custom "no reply scripted")⟩
  patience := answers.length + 1

end IssuanceClient.Rpc
