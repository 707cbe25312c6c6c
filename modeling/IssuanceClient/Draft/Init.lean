import IssuanceClient.Draft.Required
import IssuanceClient.Instruction.Build
import IssuanceClient.Issuance

/-!
Drafts of the instruction that creates an issuance.  Its issuer pays for it.
-/

namespace IssuanceClient

/-- What has been supplied so far. -/
@[ext]
structure InitDraft where
  issuance : Issuance
  maturity : Option Int64 := none
  lockMint : Option Key := none
  rewardMint : Option Key := none
  depositEscrow : Option Key := none
  rewardEscrow : Option Key := none
  platformTreasury : Option Key := none
deriving DecidableEq, Repr

namespace InitDraft

/-- One input. -/
inductive Supply
  | maturity (time : Int64)
  | lockMint (mint : Key)
  | rewardMint (mint : Key)
  | depositEscrow (escrow : Key)
  | rewardEscrow (escrow : Key)
  | platformTreasury (treasury : Key)
deriving DecidableEq, Repr

/-- The draft with one more input; it replaces an earlier one of its sort. -/
def supply (draft : InitDraft) : Supply → InitDraft
  | .maturity time => { draft with maturity := some time }
  | .lockMint mint => { draft with lockMint := some mint }
  | .rewardMint mint => { draft with rewardMint := some mint }
  | .depositEscrow escrow => { draft with depositEscrow := some escrow }
  | .rewardEscrow escrow => { draft with rewardEscrow := some escrow }
  | .platformTreasury treasury => { draft with platformTreasury := some treasury }

/-- The accounts, once every key is there. -/
def accounts (draft : InitDraft) : Except Failure InitAccounts := do
  let lockMint ← Draft.required draft.lockMint .lockMint
  let rewardMint ← Draft.required draft.rewardMint .rewardMint
  let depositEscrow ← Draft.required draft.depositEscrow .depositEscrow
  let rewardEscrow ← Draft.required draft.rewardEscrow .rewardEscrow
  let platformTreasury ← Draft.required draft.platformTreasury .platformTreasury
  return ⟨draft.issuance.issuer, draft.issuance.address, lockMint, rewardMint, depositEscrow,
    rewardEscrow, platformTreasury⟩

/-- The instruction; a missing maturity is noticed before a missing account. -/
def instruction (draft : InitDraft) : Except Failure Instruction := do
  let maturity ← Draft.required draft.maturity .maturity
  let accounts ← draft.accounts
  return Instruction.initIssuance draft.issuance.program accounts draft.issuance.reserve
    draft.issuance.start maturity

end InitDraft

end IssuanceClient
