import IssuanceClient.Proofs.DraftInputs
import IssuanceClient.Proofs.InstructionAddresses

/-!
What the inputs of a draft come to.  Each draft is built up in a record of its own; the values of a
plan say at once what counts of its inputs, and one rule makes accounts and instruction from them.
Hence the order of inputs matters only among those of one sort, and between an escrow and a snapshot
that brings another one.
-/

namespace IssuanceClient

namespace Draft

/-- The token account that counts: the one supplied, else the owner's for a mint. -/
def tokenAccountOf (supplied owner mint : Option Key) (input : Input) : Except Failure Key :=
  match supplied, owner, mint with
  | some account, _, _ => .ok account
  | none, some owner, some mint => DerivedAddress.address <$> Address.tokenAccount owner mint
  | none, none, some _ => .error (.configuration (.missing .participant))
  | none, _, none => .error (.configuration (.missingTokenAccount input))

/-- What counts of the inputs of a draft. -/
inductive Values
  | initIssuance (maturity : Option Int64)
      (lockMint rewardMint depositEscrow rewardEscrow platformTreasury : Option Key)
  | fundReserve (amount : Option UInt64) (issuerRewardAccount : Except Failure Key)
      (rewardEscrow : Option Key)
  | deposit (amount : Option UInt64) (participant : Option Key)
      (participantLockAccount : Except Failure Key) (depositEscrow : Option Key)
  | claimReward (participant : Option Key) (participantRewardAccount : Except Failure Key)
      (rewardEscrow : Option Key)

namespace Values

/-- The payload; a maturity or an amount must be there. -/
def payload (handle : Issuance) : Values → Except Failure Payload
  | initIssuance none .. => .error (.configuration (.missing .maturity))
  | initIssuance (some maturity) .. => .ok (.initIssuance handle.reserve handle.start maturity)
  | fundReserve none .. => .error (.configuration (.missing .amount))
  | fundReserve (some amount) .. => .ok (.fundReserve amount)
  | deposit none .. => .error (.configuration (.missing .amount))
  | deposit (some amount) .. => .ok (.deposit amount)
  | claimReward .. => .ok .claimReward

/-- The accounts; what is missing is noticed in the order of the lines. -/
def accounts (handle : Issuance) : Values → Except Failure AccountList
  | initIssuance _ none _ _ _ _ => .error (.configuration (.missing .lockMint))
  | initIssuance _ _ none _ _ _ => .error (.configuration (.missing .rewardMint))
  | initIssuance _ _ _ none _ _ => .error (.configuration (.missing .depositEscrow))
  | initIssuance _ _ _ _ none _ => .error (.configuration (.missing .rewardEscrow))
  | initIssuance _ _ _ _ _ none => .error (.configuration (.missing .platformTreasury))
  | initIssuance _ (some lockMint) (some rewardMint) (some depositEscrow) (some rewardEscrow)
      (some platformTreasury) =>
      .ok (.initIssuance ⟨handle.issuer, handle.address, lockMint, rewardMint, depositEscrow,
        rewardEscrow, platformTreasury⟩)
  | fundReserve _ (.error failure) _ => .error failure
  | fundReserve _ (.ok _) none => .error (.configuration (.missing .rewardEscrow))
  | fundReserve _ (.ok issuerRewardAccount) (some rewardEscrow) =>
      .ok (.fundReserve ⟨handle.address, handle.issuer, issuerRewardAccount, rewardEscrow⟩)
  | deposit _ none _ _ => .error (.configuration (.missing .participant))
  | deposit _ (some participant) participantLockAccount depositEscrow =>
      match handle.userState participant, participantLockAccount, depositEscrow with
      | .error failure, _, _ => .error failure
      | .ok _, .error failure, _ => .error failure
      | .ok _, .ok _, none => .error (.configuration (.missing .depositEscrow))
      | .ok userState, .ok participantLockAccount, some depositEscrow =>
          .ok (.deposit ⟨handle.address, userState.address, participant, participantLockAccount,
            depositEscrow⟩)
  | claimReward none _ _ => .error (.configuration (.missing .participant))
  | claimReward (some participant) participantRewardAccount rewardEscrow =>
      match handle.userState participant, participantRewardAccount, rewardEscrow with
      | .error failure, _, _ => .error failure
      | .ok _, .error failure, _ => .error failure
      | .ok _, .ok _, none => .error (.configuration (.missing .rewardEscrow))
      | .ok userState, .ok participantRewardAccount, some rewardEscrow =>
          .ok (.claimReward ⟨handle.address, userState.address, participant,
            participantRewardAccount, rewardEscrow⟩)

/-- The instruction that payload and accounts make together; a payload that is not there is noticed
before an account. -/
def instruction (handle : Issuance) (values : Values) : Except Failure Instruction :=
  match values.payload handle, values.accounts handle with
  | .error failure, _ => .error failure
  | .ok _, .error failure => .error failure
  | .ok payload, .ok accounts => .ok ⟨handle.program, accounts.metas, payload.pack⟩

end Values

end Draft

open Draft

namespace Plan

/-- What counts of the inputs of a plan. -/
def values (handle : Issuance) : Plan → Values
  | initIssuance supplies =>
      .initIssuance (lastGiven InitDraft.Supply.maturity? supplies)
        (lastGiven InitDraft.Supply.lockMint? supplies)
        (lastGiven InitDraft.Supply.rewardMint? supplies)
        (lastGiven InitDraft.Supply.depositEscrow? supplies)
        (lastGiven InitDraft.Supply.rewardEscrow? supplies)
        (lastGiven InitDraft.Supply.platformTreasury? supplies)
  | fundReserve supplies =>
      .fundReserve (lastGiven FundDraft.Supply.amount? supplies)
        (tokenAccountOf (lastGiven FundDraft.Supply.issuerRewardAccount? supplies) handle.issuer
          ((lastGiven FundDraft.Supply.snapshot? supplies).map Snapshot.rewardMint)
          .issuerRewardAccount)
        (lastGiven FundDraft.Supply.rewardEscrow? supplies)
  | deposit supplies =>
      .deposit (lastGiven DepositDraft.Supply.amount? supplies)
        (lastGiven DepositDraft.Supply.participant? supplies)
        (tokenAccountOf (lastGiven DepositDraft.Supply.participantLockAccount? supplies)
          (lastGiven DepositDraft.Supply.participant? supplies)
          ((lastGiven DepositDraft.Supply.snapshot? supplies).map Snapshot.lockMint)
          .participantLockAccount)
        (lastGiven DepositDraft.Supply.depositEscrow? supplies)
  | claimReward supplies =>
      .claimReward (lastGiven ClaimDraft.Supply.participant? supplies)
        (tokenAccountOf (lastGiven ClaimDraft.Supply.participantRewardAccount? supplies)
          (lastGiven ClaimDraft.Supply.participant? supplies)
          ((lastGiven ClaimDraft.Supply.snapshot? supplies).map Snapshot.rewardMint)
          .participantRewardAccount)
        (lastGiven ClaimDraft.Supply.rewardEscrow? supplies)

end Plan

namespace Draft

theorem tokenAccount_eq (supplied : Option Key) (owner : Key) (mint : Option Key) (input : Input) :
    tokenAccount supplied owner mint input = tokenAccountOf supplied (some owner) mint input := by
  rcases supplied with _ | account
  · rcases mint with _ | mint
    · rfl
    · rw [tokenAccount, tokenAccountOf, map_eq_pure_bind]
  · rfl

theorem required_some {α : Type} (value : α) (input : Input) :
    required (some value) input = pure value :=
  rfl

/-- The accounts of a draft, read off the last value of each input. -/
theorem accounts_draft (handle : Issuance) (plan : Plan) :
    (plan.draft handle).accounts = (plan.values handle).accounts handle := by
  cases plan with
  | initIssuance supplies =>
      rw [Plan.draft, InitDraft.foldl_supply, accounts, InitDraft.accounts, Plan.values]
      -- Each key that is missing ends both sides; one that is there lets both go on.
      rcases lastGiven InitDraft.Supply.lockMint? supplies with _ | lockMint
      · rfl
      rcases lastGiven InitDraft.Supply.rewardMint? supplies with _ | rewardMint
      · rfl
      rcases lastGiven InitDraft.Supply.depositEscrow? supplies with _ | depositEscrow
      · rfl
      rcases lastGiven InitDraft.Supply.rewardEscrow? supplies with _ | rewardEscrow
      · rfl
      rcases lastGiven InitDraft.Supply.platformTreasury? supplies with _ | platformTreasury
      · rfl
      rfl
  | fundReserve supplies =>
      rw [Plan.draft, FundDraft.foldl_supply, accounts, FundDraft.accounts, Plan.values,
        tokenAccount_eq]
      rcases tokenAccountOf _ _ _ _ with failure | issuerRewardAccount
      · rfl
      rcases lastGiven FundDraft.Supply.rewardEscrow? supplies with _ | rewardEscrow
      · rfl
      rfl
  | deposit supplies =>
      rw [Plan.draft, DepositDraft.foldl_supply, accounts, DepositDraft.accounts, Plan.values]
      rcases lastGiven DepositDraft.Supply.participant? supplies with _ | participant
      · rfl
      -- The owner of the token account is the participant, now that there is one.
      simp only [required_some, pure_bind, tokenAccount_eq, Values.accounts]
      rcases handle.userState participant with failure | userState
      · rfl
      rcases tokenAccountOf _ _ _ _ with failure | participantLockAccount
      · rfl
      rcases lastGiven DepositDraft.Supply.depositEscrow? supplies with _ | depositEscrow
      · rfl
      rfl
  | claimReward supplies =>
      rw [Plan.draft, ClaimDraft.foldl_supply, accounts, ClaimDraft.accounts, Plan.values]
      rcases lastGiven ClaimDraft.Supply.participant? supplies with _ | participant
      · rfl
      simp only [required_some, pure_bind, tokenAccount_eq, Values.accounts]
      rcases handle.userState participant with failure | userState
      · rfl
      rcases tokenAccountOf _ _ _ _ with failure | participantRewardAccount
      · rfl
      rcases lastGiven ClaimDraft.Supply.rewardEscrow? supplies with _ | rewardEscrow
      · rfl
      rfl

/-- An instruction takes its program and its payload from the handle, as far as they are not among
the inputs. -/
theorem instruction_draft (handle : Issuance) (plan : Plan) :
    (plan.draft handle).instruction = (plan.values handle).instruction handle := by
  rw [Values.instruction, ← accounts_draft]
  cases plan with
  | initIssuance supplies =>
      rw [Plan.draft, InitDraft.foldl_supply, instruction, InitDraft.instruction, accounts,
        Plan.values]
      rcases lastGiven InitDraft.Supply.maturity? supplies with _ | maturity
      · rfl
      rcases InitDraft.accounts _ with failure | accounts
      · rfl
      rfl
  | fundReserve supplies =>
      rw [Plan.draft, FundDraft.foldl_supply, instruction, FundDraft.instruction, accounts,
        Plan.values]
      rcases lastGiven FundDraft.Supply.amount? supplies with _ | amount
      · rfl
      rcases FundDraft.accounts _ with failure | accounts
      · rfl
      rfl
  | deposit supplies =>
      rw [Plan.draft, DepositDraft.foldl_supply, instruction, DepositDraft.instruction, accounts,
        Plan.values]
      rcases lastGiven DepositDraft.Supply.amount? supplies with _ | amount
      · rfl
      rcases DepositDraft.accounts _ with failure | accounts
      · rfl
      rfl
  | claimReward supplies =>
      rw [Plan.draft, ClaimDraft.foldl_supply, instruction, ClaimDraft.instruction, accounts,
        Plan.values]
      rcases ClaimDraft.accounts _ with failure | accounts
      · rfl
      rfl

/-- Inputs of two sorts, a snapshot having none, of which not one is a snapshot and the other the
escrow that a snapshot brings. -/
structure Independent (escrow : Input) (first second : Option Input) : Prop where
  different : first ≠ second
  notBefore : ¬ (first = some escrow ∧ second = none)
  notAfter : ¬ (first = none ∧ second = some escrow)

/-- Two inputs that can change places between two drafts can do so in any list of inputs. -/
theorem foldl_swap {α δ : Type} {supply : δ → α → δ} {first second : α}
    (hcomm : ∀ draft, supply (supply draft first) second = supply (supply draft second) first)
    (before after : List α) (draft : δ) :
    (before ++ first :: second :: after).foldl supply draft =
      (before ++ second :: first :: after).foldl supply draft := by
  simp only [List.foldl_append, List.foldl_cons, hcomm]

end Draft

namespace InitDraft

/-- The input that is supplied. -/
def Supply.input? : Supply → Option Input
  | .maturity _ => some .maturity
  | .lockMint _ => some .lockMint
  | .rewardMint _ => some .rewardMint
  | .depositEscrow _ => some .depositEscrow
  | .rewardEscrow _ => some .rewardEscrow
  | .platformTreasury _ => some .platformTreasury

theorem supply_comm {first second : Supply} (hinput : first.input? ≠ second.input?)
    (draft : InitDraft) :
    (draft.supply first).supply second = (draft.supply second).supply first := by
  cases first <;> cases second <;> simp [supply, Supply.input?] at hinput ⊢

end InitDraft

namespace FundDraft

/-- The input that is supplied by itself; a snapshot supplies none so. -/
def Supply.input? : Supply → Option Input
  | .amount _ => some .amount
  | .issuerRewardAccount _ => some .issuerRewardAccount
  | .rewardEscrow _ => some .rewardEscrow
  | .snapshot _ => none

theorem supply_comm {first second : Supply}
    (hindependent : Independent .rewardEscrow first.input? second.input?) (draft : FundDraft) :
    (draft.supply first).supply second = (draft.supply second).supply first := by
  obtain ⟨hdifferent, hbefore, hafter⟩ := hindependent
  cases first <;> cases second <;> simp [supply, Supply.input?] at hdifferent hbefore hafter ⊢

end FundDraft

namespace DepositDraft

/-- The input that is supplied by itself; a snapshot supplies none so. -/
def Supply.input? : Supply → Option Input
  | .participant _ => some .participant
  | .amount _ => some .amount
  | .participantLockAccount _ => some .participantLockAccount
  | .depositEscrow _ => some .depositEscrow
  | .snapshot _ => none

theorem supply_comm {first second : Supply}
    (hindependent : Independent .depositEscrow first.input? second.input?) (draft : DepositDraft) :
    (draft.supply first).supply second = (draft.supply second).supply first := by
  obtain ⟨hdifferent, hbefore, hafter⟩ := hindependent
  cases first <;> cases second <;> simp [supply, Supply.input?] at hdifferent hbefore hafter ⊢

end DepositDraft

namespace ClaimDraft

/-- The input that is supplied by itself; a snapshot supplies none so. -/
def Supply.input? : Supply → Option Input
  | .participant _ => some .participant
  | .participantRewardAccount _ => some .participantRewardAccount
  | .rewardEscrow _ => some .rewardEscrow
  | .snapshot _ => none

theorem supply_comm {first second : Supply}
    (hindependent : Independent .rewardEscrow first.input? second.input?) (draft : ClaimDraft) :
    (draft.supply first).supply second = (draft.supply second).supply first := by
  obtain ⟨hdifferent, hbefore, hafter⟩ := hindependent
  cases first <;> cases second <;> simp [supply, Supply.input?] at hdifferent hbefore hafter ⊢

end ClaimDraft

namespace Plan

/-- Two plans that differ in the order of two inputs, one right after the other, of different sorts.
-/
inductive Swapped : Plan → Plan → Prop
  | initIssuance (before after : List InitDraft.Supply) {first second : InitDraft.Supply}
      (hinput : first.input? ≠ second.input?) :
      Swapped (initIssuance (before ++ first :: second :: after))
        (initIssuance (before ++ second :: first :: after))
  | fundReserve (before after : List FundDraft.Supply) {first second : FundDraft.Supply}
      (hindependent : Independent .rewardEscrow first.input? second.input?) :
      Swapped (fundReserve (before ++ first :: second :: after))
        (fundReserve (before ++ second :: first :: after))
  | deposit (before after : List DepositDraft.Supply) {first second : DepositDraft.Supply}
      (hindependent : Independent .depositEscrow first.input? second.input?) :
      Swapped (deposit (before ++ first :: second :: after))
        (deposit (before ++ second :: first :: after))
  | claimReward (before after : List ClaimDraft.Supply) {first second : ClaimDraft.Supply}
      (hindependent : Independent .rewardEscrow first.input? second.input?) :
      Swapped (claimReward (before ++ first :: second :: after))
        (claimReward (before ++ second :: first :: after))

theorem Swapped.draft_eq {plan other : Plan} (hswapped : plan.Swapped other) (handle : Issuance) :
    plan.draft handle = other.draft handle := by
  cases hswapped with
  | initIssuance before after hinput =>
      rw [draft, draft, foldl_swap (InitDraft.supply_comm hinput)]
  | fundReserve before after hindependent =>
      rw [draft, draft, foldl_swap (FundDraft.supply_comm hindependent)]
  | deposit before after hindependent =>
      rw [draft, draft, foldl_swap (DepositDraft.supply_comm hindependent)]
  | claimReward before after hindependent =>
      rw [draft, draft, foldl_swap (ClaimDraft.supply_comm hindependent)]

/-- Accounts and instruction are made from what counts of the inputs.  So plans with the same values
come to the same, failures included, and so do plans that differ in the order of two inputs of
different sorts. -/
theorem outcome_by_values (handle : Issuance) :
    (∀ plan : Plan, (plan.draft handle).accounts = (plan.values handle).accounts handle ∧
      (plan.draft handle).instruction = (plan.values handle).instruction handle) ∧
    (∀ plan other : Plan, plan.values handle = other.values handle →
      (plan.draft handle).accounts = (other.draft handle).accounts ∧
        (plan.draft handle).instruction = (other.draft handle).instruction) ∧
    ∀ plan other : Plan, plan.Swapped other → plan.draft handle = other.draft handle := by
  refine ⟨fun plan => ⟨accounts_draft handle plan, instruction_draft handle plan⟩,
    fun plan other hvalues => ?_, fun plan other hswapped => hswapped.draft_eq handle⟩
  constructor
  · rw [accounts_draft, accounts_draft, hvalues]
  · rw [instruction_draft, instruction_draft, hvalues]

def suppliedAccount : Key := ⟨List.replicate 32 9, rfl⟩

/-- A deposit whose amount and participant are given twice, and whose escrow is that of the snapshot
although another one was given before. -/
def revisedDeposit : List DepositDraft.Supply :=
  [.amount 3, .participant (Bytes.zero 32), .participantLockAccount suppliedAccount,
   .depositEscrow suppliedAccount, .snapshot Snapshot.fundedSnapshot,
   .participant fundedParticipant, .amount 7]

/-- What was given last stands in the accounts and in the instruction, and beside a token account
the mint of a snapshot does not count, wherever the snapshot stands. -/
theorem outcome_by_values_funded :
    ∃ user, Issuance.funded.userState fundedParticipant = .ok user ∧
      ((deposit revisedDeposit).draft Issuance.funded).accounts =
        .ok (.deposit ⟨Issuance.funded.address, user.address, fundedParticipant, suppliedAccount,
          Bytes.zero 32⟩) ∧
      ((deposit revisedDeposit).draft Issuance.funded).instruction =
        .ok ⟨Issuance.funded.program,
          [⟨Issuance.funded.address, false, true⟩, ⟨user.address, false, true⟩,
           ⟨fundedParticipant, true, false⟩, ⟨suppliedAccount, false, true⟩,
           ⟨Bytes.zero 32, false, true⟩, ⟨tokenProgram, false, false⟩,
           ⟨systemProgram, false, false⟩], [2, 7, 0, 0, 0, 0, 0, 0, 0]⟩ ∧
      ∃ other swapped : Plan,
        (deposit revisedDeposit).values Issuance.funded = other.values Issuance.funded ∧
        (other.draft Issuance.funded).instruction =
          ((deposit revisedDeposit).draft Issuance.funded).instruction ∧
        (deposit revisedDeposit).Swapped swapped ∧
        (deposit revisedDeposit).draft Issuance.funded = swapped.draft Issuance.funded := by
  obtain ⟨user, huser⟩ := exists_userState_funded
  obtain ⟨houtcome, hsame, hswap⟩ := outcome_by_values Issuance.funded
  obtain ⟨haccounts, hinstruction⟩ := houtcome (deposit revisedDeposit)
  have hvalues : (deposit revisedDeposit).values Issuance.funded =
      .deposit (some 7) (some fundedParticipant) (.ok suppliedAccount) (some (Bytes.zero 32)) := rfl
  have hmade : (Values.deposit (some 7) (some fundedParticipant) (.ok suppliedAccount)
      (some (Bytes.zero 32))).accounts Issuance.funded =
        .ok (.deposit ⟨Issuance.funded.address, user.address, fundedParticipant, suppliedAccount,
          Bytes.zero 32⟩) := by
    simp only [Values.accounts, huser]
  have hother : (deposit revisedDeposit).values Issuance.funded =
      (deposit [.participantLockAccount suppliedAccount, .depositEscrow (Bytes.zero 32),
        .participant fundedParticipant, .amount 7]).values Issuance.funded := rfl
  have hswapped : (deposit revisedDeposit).Swapped
      (deposit [.amount 3, .participant (Bytes.zero 32), .depositEscrow suppliedAccount,
        .participantLockAccount suppliedAccount, .snapshot Snapshot.fundedSnapshot,
        .participant fundedParticipant, .amount 7]) :=
    .deposit [.amount 3, .participant (Bytes.zero 32)] _ ⟨by decide, by decide, by decide⟩
  rw [hvalues, hmade] at haccounts
  rw [hvalues, Values.instruction, hmade] at hinstruction
  exact ⟨user, huser, haccounts, hinstruction, _, _, hother, (hsame _ _ hother).2.symm, hswapped,
    hswap _ _ hswapped⟩

end Plan

end IssuanceClient
