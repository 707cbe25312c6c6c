import IssuanceClient.Instruction
import IssuanceClient.Program

/-!
The accounts of each kind of instruction.  The program finds them by position, so the order of
`metas` and the rights in it are part of the program's contract; the fixed programs at the end are
filled in.
-/

namespace IssuanceClient

/-- The payer becomes the issuer. -/
structure InitAccounts where
  payer : Key
  issuance : Key
  lockMint : Key
  rewardMint : Key
  depositEscrow : Key
  rewardEscrow : Key
  platformTreasury : Key
deriving DecidableEq, Repr

structure FundAccounts where
  issuance : Key
  issuer : Key
  issuerRewardAccount : Key
  rewardEscrow : Key
deriving DecidableEq, Repr

structure DepositAccounts where
  issuance : Key
  userState : Key
  participant : Key
  participantLockAccount : Key
  depositEscrow : Key
deriving DecidableEq, Repr

structure ClaimAccounts where
  issuance : Key
  userState : Key
  participant : Key
  participantRewardAccount : Key
  rewardEscrow : Key
deriving DecidableEq, Repr

open AccountMeta in
def InitAccounts.metas (accounts : InitAccounts) : List AccountMeta :=
  [(changed accounts.payer).signed, changed accounts.issuance, consulted accounts.lockMint,
   consulted accounts.rewardMint, consulted accounts.depositEscrow, consulted accounts.rewardEscrow,
   consulted accounts.platformTreasury, consulted systemProgram]

open AccountMeta in
def FundAccounts.metas (accounts : FundAccounts) : List AccountMeta :=
  [changed accounts.issuance, (consulted accounts.issuer).signed,
   changed accounts.issuerRewardAccount, changed accounts.rewardEscrow, consulted tokenProgram]

open AccountMeta in
def DepositAccounts.metas (accounts : DepositAccounts) : List AccountMeta :=
  [changed accounts.issuance, changed accounts.userState, (consulted accounts.participant).signed,
   changed accounts.participantLockAccount, changed accounts.depositEscrow, consulted tokenProgram,
   consulted systemProgram]

open AccountMeta in
def ClaimAccounts.metas (accounts : ClaimAccounts) : List AccountMeta :=
  [changed accounts.issuance, changed accounts.userState, (consulted accounts.participant).signed,
   changed accounts.participantRewardAccount, changed accounts.rewardEscrow, consulted tokenProgram]

/-- The accounts of one instruction, whichever its kind. -/
inductive AccountList
  | initIssuance (accounts : InitAccounts)
  | fundReserve (accounts : FundAccounts)
  | deposit (accounts : DepositAccounts)
  | claimReward (accounts : ClaimAccounts)
deriving DecidableEq, Repr

namespace AccountList

def kind : AccountList → Kind
  | initIssuance _ => .initIssuance
  | fundReserve _ => .fundReserve
  | deposit _ => .deposit
  | claimReward _ => .claimReward

/-- The accounts by position, with their rights. -/
def metas : AccountList → List AccountMeta
  | initIssuance accounts => accounts.metas
  | fundReserve accounts => accounts.metas
  | deposit accounts => accounts.metas
  | claimReward accounts => accounts.metas

end AccountList

end IssuanceClient
