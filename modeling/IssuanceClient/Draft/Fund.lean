import IssuanceClient.Draft.Required
import IssuanceClient.Instruction.Build
import IssuanceClient.Issuance
import IssuanceClient.Snapshot

/-!
Drafts of the instruction that moves the rewards into escrow.  The issuer pays for it and owns the
account the rewards come from.
-/

namespace IssuanceClient

/-- What has been supplied so far. -/
@[ext]
structure FundDraft where
  issuance : Issuance
  amount : Option UInt64 := none
  issuerRewardAccount : Option Key := none
  rewardEscrow : Option Key := none
  rewardMint : Option Key := none
deriving DecidableEq, Repr

namespace FundDraft

/-- One input.  A snapshot supplies the escrow and the mint of the rewards. -/
inductive Supply
  | amount (amount : UInt64)
  | issuerRewardAccount (account : Key)
  | rewardEscrow (escrow : Key)
  | snapshot (snapshot : Snapshot)
deriving DecidableEq, Repr

/-- The draft with one more input. -/
def supply (draft : FundDraft) : Supply → FundDraft
  | .amount amount => { draft with amount := some amount }
  | .issuerRewardAccount account => { draft with issuerRewardAccount := some account }
  | .rewardEscrow escrow => { draft with rewardEscrow := some escrow }
  | .snapshot snapshot =>
      { draft with
        rewardEscrow := some snapshot.rewardEscrow
        rewardMint := some snapshot.rewardMint }

def accounts (draft : FundDraft) : Except Failure FundAccounts := do
  let issuerRewardAccount ← Draft.tokenAccount draft.issuerRewardAccount draft.issuance.issuer
    draft.rewardMint .issuerRewardAccount
  let rewardEscrow ← Draft.required draft.rewardEscrow .rewardEscrow
  return ⟨draft.issuance.address, draft.issuance.issuer, issuerRewardAccount, rewardEscrow⟩

/-- The instruction; a missing amount is noticed before a missing account. -/
def instruction (draft : FundDraft) : Except Failure Instruction := do
  let amount ← Draft.required draft.amount .amount
  let accounts ← draft.accounts
  return Instruction.fundReserve draft.issuance.program accounts amount

end FundDraft

end IssuanceClient
