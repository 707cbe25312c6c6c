import IssuanceClient.Connection

/-!
A connection that follows a script: accounts in a ledger, and prepared replies to the calls of one
submission.
-/

namespace IssuanceClient

/-- Accounts by address; an address may also hold a failure, which reading it then gives. -/
abbrev Ledger := List (Key × Except Failure Account)

namespace Ledger

/-- The ledger with something new at an address. -/
def put (ledger : Ledger) (address : Key) (entry : Except Failure Account) : Ledger :=
  (address, entry) :: ledger.filter (·.1 ≠ address)

/-- The ledger without an address. -/
def drop (ledger : Ledger) (address : Key) : Ledger := ledger.filter (·.1 ≠ address)

/-- What reading an address gives. -/
def read (ledger : Ledger) (address : Key) : Except Failure (Option Account) :=
  match ledger.find? (·.1 = address) with
  | some (_, entry) => some <$> entry
  | none => .ok none

/-- The texts of the addresses in use, in order. -/
def addresses (ledger : Ledger) : List String :=
  (ledger.map fun entry => entry.1.text).mergeSort fun a b => decide (a ≤ b)

end Ledger

/-- Prepared replies.  Statuses are used up one by one, and nothing is known after the last. -/
structure Script where
  blockhash : Reply Blockhash := ⟨0, .ok ⟨List.replicate 32 7, rfl⟩⟩
  /-- Without a signature of its own the reply is the transaction's first one. -/
  send : Reply (Option Signature) := ⟨0, .ok none⟩
  statuses : List (Reply (Option Status)) := [⟨0, .ok (some (.ok ()))⟩]
  logs : Reply (Option (List String)) := ⟨0, .ok none⟩

/-- Whether a call asks for a status. -/
def Call.isStatus : Call → Bool
  | status .. => true
  | _ => false

/-- The connection that a ledger and a script make. -/
def Script.connection (script : Script) (ledger : Ledger) : Connection where
  account _ address := ⟨0, ledger.read address⟩
  latestBlockhash _ := script.blockhash.prepared
  send _ transaction :=
    let own := transaction.signatures.headD Signature.missing
    let reply := script.send.prepared
    ⟨reply.delay, (·.getD own) <$> reply.outcome⟩
  status calls _ _ :=
    (script.statuses.getD (calls.countP (·.call.isStatus)) ⟨0, .ok none⟩).prepared
  logs _ _ _ := script.logs.prepared
  patience := script.statuses.length + 1

end IssuanceClient
