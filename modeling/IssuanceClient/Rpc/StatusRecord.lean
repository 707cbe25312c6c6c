import IssuanceClient.Commitment
import IssuanceClient.Transaction.FaultJson

/-!
What a node knows about a transaction that it was asked for by signature.
-/

namespace IssuanceClient.Rpc

open Json

/-- The outcome of a transaction and how settled it is. -/
structure StatusRecord where
  /-- The number of blocks since then, until the block is final. -/
  confirmations : Option Nat
  outcome : Except TransactionFault Unit
  level : Option Commitment

namespace StatusRecord

namespace Fields

def slot : Slot UInt64 := .required "slot" Reader.word

def confirmations : Slot (Option Nat) := .nullable "confirmations" Reader.count

def outcome : Slot (Except TransactionFault Unit) := .required "status" TransactionFault.outcome

/-- The fault once more, which a node writes beside the outcome. -/
def fault : Slot (Option TransactionFault) := .nullable "err" TransactionFault.reader

def level : Slot (Option Commitment) :=
  .nullable "confirmationStatus"
    (Reader.choice ([.processed, .confirmed, .finalized].map fun level : Commitment =>
      .bare level.name level))

end Fields

/-- Reads what is known about a transaction. -/
def reader : Reader StatusRecord :=
  Reader.record "TransactionStatus"
    [Fields.slot.form, Fields.confirmations.form, Fields.outcome.form, Fields.fault.form,
     Fields.level.form]
    fun source members => do
      return ⟨← Fields.confirmations.get source members, ← Fields.outcome.get source members,
        ← Fields.level.get source members⟩

/-- Whether a transaction has reached a commitment.  Where its level is not known, the number of
blocks since then decides. -/
def reached (status : StatusRecord) : Commitment → Bool
  | .finalized => status.confirmations.isNone
  | .confirmed =>
      match status.level with
      | some level => level != .processed
      | none => status.confirmations.all (1 < ·)
  | .processed => true

end StatusRecord

end IssuanceClient.Rpc
