import IssuanceClient.Draft
import IssuanceClient.Proofs.Outcome

/-!
What a draft lacks nothing for.  A draft gives an account list exactly if it `Completes` the list,
and an instruction exactly if it also has the fields of the payload.
-/

open Except (bind_eq_ok_iff pure_eq_ok_iff map_eq_ok_iff)

namespace IssuanceClient

namespace Draft

theorem required_eq_ok_iff {α : Type} {value : Option α} {input : Input} {result : α} :
    required value input = .ok result ↔ value = some result := by
  cases value with
  | none => exact ⟨fun h => (nomatch h), fun h => (nomatch h)⟩
  | some value => rw [required, Except.ok.injEq, Option.some.injEq]

/-- A token account is the one supplied, or that of an owner for a mint. -/
def TokenAccount (supplied : Option Key) (owner : Key) (mint : Option Key) (account : Key) : Prop :=
  supplied = some account ∨
    supplied = none ∧ ∃ coin derived, mint = some coin ∧
      Address.tokenAccount owner coin = .ok derived ∧ derived.address = account

theorem tokenAccount_eq_ok_iff {supplied mint : Option Key} {owner account : Key} {input : Input} :
    tokenAccount supplied owner mint input = .ok account ↔
      TokenAccount supplied owner mint account := by
  cases supplied with
  | some key => simp [tokenAccount, TokenAccount]
  | none =>
      cases mint with
      | none => simp [tokenAccount, TokenAccount]
      | some coin => simp [tokenAccount, TokenAccount, map_eq_ok_iff]

end Draft

open Draft

namespace InitDraft

structure Completes (draft : InitDraft) (accounts : InitAccounts) : Prop where
  payer : draft.issuance.issuer = accounts.payer
  issuance : draft.issuance.address = accounts.issuance
  lockMint : draft.lockMint = some accounts.lockMint
  rewardMint : draft.rewardMint = some accounts.rewardMint
  depositEscrow : draft.depositEscrow = some accounts.depositEscrow
  rewardEscrow : draft.rewardEscrow = some accounts.rewardEscrow
  platformTreasury : draft.platformTreasury = some accounts.platformTreasury

variable {draft : InitDraft}

theorem accounts_eq_ok_iff {list : InitAccounts} :
    draft.accounts = .ok list ↔ draft.Completes list := by
  simp only [accounts, bind_eq_ok_iff, required_eq_ok_iff, pure_eq_ok_iff]
  constructor
  · rintro ⟨_, hlockMint, _, hrewardMint, _, hdepositEscrow, _, hrewardEscrow, _,
      hplatformTreasury, rfl⟩
    exact ⟨rfl, rfl, hlockMint, hrewardMint, hdepositEscrow, hrewardEscrow, hplatformTreasury⟩
  · intro hcompletes
    obtain ⟨hpayer, hissuance, hlockMint, hrewardMint, hdepositEscrow, hrewardEscrow,
      hplatformTreasury⟩ := hcompletes
    refine ⟨_, hlockMint, _, hrewardMint, _, hdepositEscrow, _, hrewardEscrow, _,
      hplatformTreasury, ?_⟩
    rw [hpayer, hissuance]

theorem instruction_eq_ok_iff {instruction : Instruction} :
    draft.instruction = .ok instruction ↔
      ∃ maturity, draft.maturity = some maturity ∧ ∃ accounts, draft.Completes accounts ∧
        Instruction.initIssuance draft.issuance.program accounts draft.issuance.reserve
          draft.issuance.start maturity = instruction := by
  simp only [InitDraft.instruction, bind_eq_ok_iff, required_eq_ok_iff, pure_eq_ok_iff,
    accounts_eq_ok_iff]

end InitDraft

namespace FundDraft

structure Completes (draft : FundDraft) (accounts : FundAccounts) : Prop where
  issuance : draft.issuance.address = accounts.issuance
  issuer : draft.issuance.issuer = accounts.issuer
  issuerRewardAccount : TokenAccount draft.issuerRewardAccount draft.issuance.issuer
    draft.rewardMint accounts.issuerRewardAccount
  rewardEscrow : draft.rewardEscrow = some accounts.rewardEscrow

variable {draft : FundDraft}

theorem accounts_eq_ok_iff {list : FundAccounts} :
    draft.accounts = .ok list ↔ draft.Completes list := by
  simp only [accounts, bind_eq_ok_iff, required_eq_ok_iff, tokenAccount_eq_ok_iff, pure_eq_ok_iff]
  constructor
  · rintro ⟨_, haccount, _, hescrow, rfl⟩
    exact ⟨rfl, rfl, haccount, hescrow⟩
  · rintro ⟨hissuance, hissuer, haccount, hescrow⟩
    refine ⟨_, haccount, _, hescrow, ?_⟩
    rw [hissuance, hissuer]

theorem instruction_eq_ok_iff {instruction : Instruction} :
    draft.instruction = .ok instruction ↔
      ∃ amount, draft.amount = some amount ∧ ∃ accounts, draft.Completes accounts ∧
        Instruction.fundReserve draft.issuance.program accounts amount = instruction := by
  simp only [FundDraft.instruction, bind_eq_ok_iff, required_eq_ok_iff, pure_eq_ok_iff,
    accounts_eq_ok_iff]

end FundDraft

namespace DepositDraft

structure Completes (draft : DepositDraft) (accounts : DepositAccounts) : Prop where
  issuance : draft.issuance.address = accounts.issuance
  userState : ∃ derived, draft.issuance.userState accounts.participant = .ok derived ∧
    derived.address = accounts.userState
  participant : draft.participant = some accounts.participant
  participantLockAccount : TokenAccount draft.participantLockAccount accounts.participant
    draft.lockMint accounts.participantLockAccount
  depositEscrow : draft.depositEscrow = some accounts.depositEscrow

variable {draft : DepositDraft}

theorem accounts_eq_ok_iff {list : DepositAccounts} :
    draft.accounts = .ok list ↔ draft.Completes list := by
  simp only [accounts, bind_eq_ok_iff, required_eq_ok_iff, tokenAccount_eq_ok_iff, pure_eq_ok_iff]
  constructor
  · rintro ⟨_, hparticipant, derived, huser, _, haccount, _, hescrow, rfl⟩
    exact ⟨rfl, ⟨derived, huser, rfl⟩, hparticipant, haccount, hescrow⟩
  · rintro ⟨hissuance, ⟨derived, huser, haddress⟩, hparticipant, haccount, hescrow⟩
    refine ⟨_, hparticipant, derived, huser, _, haccount, _, hescrow, ?_⟩
    rw [hissuance, haddress]

theorem instruction_eq_ok_iff {instruction : Instruction} :
    draft.instruction = .ok instruction ↔
      ∃ amount, draft.amount = some amount ∧ ∃ accounts, draft.Completes accounts ∧
        Instruction.deposit draft.issuance.program accounts amount = instruction := by
  simp only [DepositDraft.instruction, bind_eq_ok_iff, required_eq_ok_iff, pure_eq_ok_iff,
    accounts_eq_ok_iff]

end DepositDraft

namespace ClaimDraft

structure Completes (draft : ClaimDraft) (accounts : ClaimAccounts) : Prop where
  issuance : draft.issuance.address = accounts.issuance
  userState : ∃ derived, draft.issuance.userState accounts.participant = .ok derived ∧
    derived.address = accounts.userState
  participant : draft.participant = some accounts.participant
  participantRewardAccount : TokenAccount draft.participantRewardAccount accounts.participant
    draft.rewardMint accounts.participantRewardAccount
  rewardEscrow : draft.rewardEscrow = some accounts.rewardEscrow

variable {draft : ClaimDraft}

theorem accounts_eq_ok_iff {list : ClaimAccounts} :
    draft.accounts = .ok list ↔ draft.Completes list := by
  simp only [accounts, bind_eq_ok_iff, required_eq_ok_iff, tokenAccount_eq_ok_iff, pure_eq_ok_iff]
  constructor
  · rintro ⟨_, hparticipant, derived, huser, _, haccount, _, hescrow, rfl⟩
    exact ⟨rfl, ⟨derived, huser, rfl⟩, hparticipant, haccount, hescrow⟩
  · rintro ⟨hissuance, ⟨derived, huser, haddress⟩, hparticipant, haccount, hescrow⟩
    refine ⟨_, hparticipant, derived, huser, _, haccount, _, hescrow, ?_⟩
    rw [hissuance, haddress]

theorem instruction_eq_ok_iff {instruction : Instruction} :
    draft.instruction = .ok instruction ↔
      ∃ accounts, draft.Completes accounts ∧
        Instruction.claimReward draft.issuance.program accounts = instruction := by
  simp only [ClaimDraft.instruction, bind_eq_ok_iff, pure_eq_ok_iff, accounts_eq_ok_iff]

end ClaimDraft

end IssuanceClient
