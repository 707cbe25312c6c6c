import IssuanceClient.Draft.Required
import IssuanceClient.Instruction.Build
import IssuanceClient.Issuance
import IssuanceClient.Snapshot

/-!
Drafts of the instruction that takes a participant's reward out.  The participant pays for it.
-/

namespace IssuanceClient

/-- What has been supplied so far. -/
@[ext]
structure ClaimDraft where
  issuance : Issuance
  participant : Option Key := none
  participantRewardAccount : Option Key := none
  rewardEscrow : Option Key := none
  rewardMint : Option Key := none
deriving DecidableEq, Repr

namespace ClaimDraft

/-- One input.  A snapshot supplies the escrow and the mint of the rewards. -/
inductive Supply
  | participant (participant : Key)
  | participantRewardAccount (account : Key)
  | rewardEscrow (escrow : Key)
  | snapshot (snapshot : Snapshot)
deriving DecidableEq, Repr

/-- The draft with one more input. -/
def supply (draft : ClaimDraft) : Supply → ClaimDraft
  | .participant participant => { draft with participant := some participant }
  | .participantRewardAccount account => { draft with participantRewardAccount := some account }
  | .rewardEscrow escrow => { draft with rewardEscrow := some escrow }
  | .snapshot snapshot =>
      { draft with
        rewardEscrow := some snapshot.rewardEscrow
        rewardMint := some snapshot.rewardMint }

def accounts (draft : ClaimDraft) : Except Failure ClaimAccounts := do
  let participant ← Draft.required draft.participant .participant
  let userState ← draft.issuance.userState participant
  let participantRewardAccount ← Draft.tokenAccount draft.participantRewardAccount participant
    draft.rewardMint .participantRewardAccount
  let rewardEscrow ← Draft.required draft.rewardEscrow .rewardEscrow
  return ⟨draft.issuance.address, userState.address, participant, participantRewardAccount,
    rewardEscrow⟩

def instruction (draft : ClaimDraft) : Except Failure Instruction := do
  let accounts ← draft.accounts
  return Instruction.claimReward draft.issuance.program accounts

end ClaimDraft

end IssuanceClient
