import IssuanceClient.Draft.Claim
import IssuanceClient.Draft.Deposit
import IssuanceClient.Draft.Fund
import IssuanceClient.Draft.Init

/-!
Drafts of any kind.  A plan is the kind of instruction wanted and the inputs to supply, in order; on
a handle it gives a draft.
-/

namespace IssuanceClient

/-- A kind of instruction and the inputs to supply for it. -/
inductive Plan
  | initIssuance (supplies : List InitDraft.Supply)
  | fundReserve (supplies : List FundDraft.Supply)
  | deposit (supplies : List DepositDraft.Supply)
  | claimReward (supplies : List ClaimDraft.Supply)
deriving DecidableEq, Repr

/-- A draft of an instruction. -/
inductive Draft
  | initIssuance (draft : InitDraft)
  | fundReserve (draft : FundDraft)
  | deposit (draft : DepositDraft)
  | claimReward (draft : ClaimDraft)
deriving DecidableEq, Repr

def Plan.kind : Plan → Kind
  | initIssuance _ => .initIssuance
  | fundReserve _ => .fundReserve
  | deposit _ => .deposit
  | claimReward _ => .claimReward

/-- The draft that a plan leads to on a handle. -/
def Plan.draft (issuance : Issuance) : Plan → Draft
  | initIssuance supplies => .initIssuance (supplies.foldl InitDraft.supply { issuance })
  | fundReserve supplies => .fundReserve (supplies.foldl FundDraft.supply { issuance })
  | deposit supplies => .deposit (supplies.foldl DepositDraft.supply { issuance })
  | claimReward supplies => .claimReward (supplies.foldl ClaimDraft.supply { issuance })

namespace Draft

/-- The accounts, or the failure for the first input that is missing. -/
def accounts : Draft → Except Failure AccountList
  | initIssuance draft => AccountList.initIssuance <$> draft.accounts
  | fundReserve draft => AccountList.fundReserve <$> draft.accounts
  | deposit draft => AccountList.deposit <$> draft.accounts
  | claimReward draft => AccountList.claimReward <$> draft.accounts

/-- The instruction, or the failure for the first input that is missing. -/
def instruction : Draft → Except Failure Instruction
  | initIssuance draft => draft.instruction
  | fundReserve draft => draft.instruction
  | deposit draft => draft.instruction
  | claimReward draft => draft.instruction

/-- Who pays for the transaction: the issuer, or the participant. -/
def payer : Draft → Except Failure Key
  | initIssuance draft => .ok draft.issuance.issuer
  | fundReserve draft => .ok draft.issuance.issuer
  | deposit draft => required draft.participant .participant
  | claimReward draft => required draft.participant .participant

end Draft

end IssuanceClient
