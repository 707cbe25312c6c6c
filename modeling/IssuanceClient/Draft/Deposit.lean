import IssuanceClient.Draft.Required
import IssuanceClient.Instruction.Build
import IssuanceClient.Issuance
import IssuanceClient.Snapshot

/-!
Drafts of the instruction that locks a participant's tokens.  The participant pays for it.
-/

namespace IssuanceClient

/-- What has been supplied so far. -/
@[ext]
structure DepositDraft where
  issuance : Issuance
  participant : Option Key := none
  amount : Option UInt64 := none
  participantLockAccount : Option Key := none
  depositEscrow : Option Key := none
  lockMint : Option Key := none
deriving DecidableEq, Repr

namespace DepositDraft

/-- One input.  A snapshot supplies the escrow and the mint of deposits. -/
inductive Supply
  | participant (participant : Key)
  | amount (amount : UInt64)
  | participantLockAccount (account : Key)
  | depositEscrow (escrow : Key)
  | snapshot (snapshot : Snapshot)
deriving DecidableEq, Repr

/-- The draft with one more input. -/
def supply (draft : DepositDraft) : Supply → DepositDraft
  | .participant participant => { draft with participant := some participant }
  | .amount amount => { draft with amount := some amount }
  | .participantLockAccount account => { draft with participantLockAccount := some account }
  | .depositEscrow escrow => { draft with depositEscrow := some escrow }
  | .snapshot snapshot =>
      { draft with
        depositEscrow := some snapshot.depositEscrow
        lockMint := some snapshot.lockMint }

def accounts (draft : DepositDraft) : Except Failure DepositAccounts := do
  let participant ← Draft.required draft.participant .participant
  let userState ← draft.issuance.userState participant
  let participantLockAccount ← Draft.tokenAccount draft.participantLockAccount participant
    draft.lockMint .participantLockAccount
  let depositEscrow ← Draft.required draft.depositEscrow .depositEscrow
  return ⟨draft.issuance.address, userState.address, participant, participantLockAccount,
    depositEscrow⟩

/-- The instruction; a missing amount is noticed before a missing account. -/
def instruction (draft : DepositDraft) : Except Failure Instruction := do
  let amount ← Draft.required draft.amount .amount
  let accounts ← draft.accounts
  return Instruction.deposit draft.issuance.program accounts amount

end DepositDraft

end IssuanceClient
