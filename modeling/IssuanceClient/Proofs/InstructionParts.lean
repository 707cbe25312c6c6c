import IssuanceClient.Proofs.DraftInputs
import IssuanceClient.Proofs.DraftInstruction
import IssuanceClient.Proofs.IssuanceLookup
import IssuanceClient.Proofs.PayloadRoundTrip

/-!
The parts of an instruction.  A program, an account list and a payload of its kind make the same
instruction whichever way it is put together, and they can be read back from it: the kind and the
fields from the bytes, and then the accounts from their positions.
-/

namespace IssuanceClient

/-- The accounts of a kind that stand at the positions of some keys.  The fixed programs take up
positions too, but are no part of the accounts. -/
def AccountList.ofKeys? : Kind → List Key → Option AccountList
  | .initIssuance, [payer, issuance, lockMint, rewardMint, depositEscrow, rewardEscrow,
      platformTreasury, _] =>
      some (.initIssuance ⟨payer, issuance, lockMint, rewardMint, depositEscrow, rewardEscrow,
        platformTreasury⟩)
  | .fundReserve, [issuance, issuer, issuerRewardAccount, rewardEscrow, _] =>
      some (.fundReserve ⟨issuance, issuer, issuerRewardAccount, rewardEscrow⟩)
  | .deposit, [issuance, userState, participant, participantLockAccount, depositEscrow, _, _] =>
      some (.deposit ⟨issuance, userState, participant, participantLockAccount, depositEscrow⟩)
  | .claimReward, [issuance, userState, participant, participantRewardAccount, rewardEscrow, _] =>
      some (.claimReward ⟨issuance, userState, participant, participantRewardAccount,
        rewardEscrow⟩)
  | _, _ => none

/-- Every account is found where its list puts it. -/
theorem AccountList.ofKeys?_metas (accounts : AccountList) :
    ofKeys? accounts.kind (accounts.metas.map AccountMeta.key) = some accounts := by
  cases accounts <;> rfl

theorem AccountList.kind_eq_of_ofKeys? {kind : Kind} {keys : List Key} {accounts : AccountList}
    (hkeys : ofKeys? kind keys = some accounts) : accounts.kind = kind := by
  unfold ofKeys? at hkeys
  split at hkeys
  all_goals cases hkeys
  all_goals rfl

namespace Instruction

/-- What an instruction was made of: the payload that its bytes hold, and the accounts at the
positions where the payload's kind expects them, if their rights are the expected ones as well. -/
def parts? (instruction : Instruction) : Option (Key × AccountList × Payload) := do
  let payload ← (Payload.unpack instruction.data).toOption
  let accounts ←
    AccountList.ofKeys? payload.kind (instruction.accounts.map AccountMeta.key)
  if accounts.metas = instruction.accounts then
    return (instruction.program, accounts, payload)
  else none

/-- What the functions for the single kinds make of accounts and fields. -/
inductive Made (program : Key) : AccountList → Payload → Instruction → Prop
  | initIssuance (accounts : InitAccounts) (reserve : UInt128) (start maturity : Int64) :
      Made program (.initIssuance accounts) (.initIssuance reserve start maturity)
        (Instruction.initIssuance program accounts reserve start maturity)
  | fundReserve (accounts : FundAccounts) (amount : UInt64) :
      Made program (.fundReserve accounts) (.fundReserve amount)
        (Instruction.fundReserve program accounts amount)
  | deposit (accounts : DepositAccounts) (amount : UInt64) :
      Made program (.deposit accounts) (.deposit amount)
        (Instruction.deposit program accounts amount)
  | claimReward (accounts : ClaimAccounts) :
      Made program (.claimReward accounts) .claimReward
        (Instruction.claimReward program accounts)

variable {program : Key} {accounts : AccountList} {payload : Payload} {instruction : Instruction}

theorem build_eq_ok_iff :
    build program accounts payload = .ok instruction ↔
      payload.kind = accounts.kind ∧ instruction = ⟨program, accounts.metas, payload.pack⟩ := by
  rw [build]
  split
  · rename_i hkind
    simp [hkind, eq_comm]
  · rename_i hkind
    simp [hkind]

theorem build_eq_error_iff {failure : Failure} :
    build program accounts payload = .error failure ↔
      payload.kind ≠ accounts.kind ∧
        failure = .configuration (.kindMismatch accounts.kind payload.kind) := by
  rw [build]
  split
  · rename_i hkind
    simp [hkind]
  · rename_i hkind
    simp [hkind, eq_comm]

theorem build_eq_ok_iff_made :
    build program accounts payload = .ok instruction ↔
      Made program accounts payload instruction := by
  rw [build_eq_ok_iff]
  constructor
  · intro hparts
    obtain ⟨hkind, rfl⟩ := hparts
    cases accounts <;> cases payload <;> cases hkind <;> constructor
  · intro hmade
    cases hmade <;> exact ⟨rfl, rfl⟩

theorem Made.unpack_eq (hmade : Made program accounts payload instruction) :
    Payload.unpack instruction.data = .ok payload := by
  obtain ⟨-, rfl⟩ := build_eq_ok_iff.mp (build_eq_ok_iff_made.mpr hmade)
  exact Payload.unpack_pack payload

/-- Reading the parts is the inverse of building. -/
theorem parts?_eq_some_iff :
    instruction.parts? = some (program, accounts, payload) ↔
      build program accounts payload = .ok instruction := by
  rw [build_eq_ok_iff]
  constructor
  · intro hparts
    simp only [parts?, Option.bind_eq_bind, Option.bind_eq_some_iff] at hparts
    obtain ⟨found, hpayload, list, hkeys, hmetas⟩ := hparts
    have hdata : instruction.data = found.pack := by
      cases hunpack : Payload.unpack instruction.data with
      | error failure => simp [hunpack, Except.toOption] at hpayload
      | ok read =>
          simp only [hunpack, Except.toOption, Option.some.injEq] at hpayload
          rw [← hpayload]
          exact Payload.unpack_eq_ok_iff.mp hunpack
    split at hmetas
    · rename_i hlist
      simp only [Option.pure_def, Option.some.injEq, Prod.mk.injEq] at hmetas
      obtain ⟨rfl, rfl, rfl⟩ := hmetas
      refine ⟨(AccountList.kind_eq_of_ofKeys? hkeys).symm, ?_⟩
      rw [hlist, ← hdata]
    · simp at hmetas
  · intro hbuild
    obtain ⟨hkind, rfl⟩ := hbuild
    have hunpack : (Payload.unpack payload.pack).toOption = some payload := by
      rw [Payload.unpack_pack]
      rfl
    simp [parts?, hunpack, hkind, AccountList.ofKeys?_metas]

end Instruction

open Instruction

/-- A draft puts together what the function for its kind makes of the draft's accounts. -/
theorem Plan.exists_made {handle : Issuance} {plan : Plan} {instruction : Instruction}
    (hinstruction : (plan.draft handle).instruction = .ok instruction) :
    ∃ accounts payload, (plan.draft handle).accounts = .ok accounts ∧
      Made handle.program accounts payload instruction := by
  cases plan with
  | initIssuance supplies =>
      obtain ⟨maturity, -, accounts, hcompletes, rfl⟩ :=
        InitDraft.instruction_eq_ok_iff.mp hinstruction
      have haccounts := InitDraft.accounts_eq_ok_iff.mpr hcompletes
      rw [InitDraft.issuance_foldl]
      exact ⟨_, _, Except.map_eq_ok_iff.mpr ⟨accounts, haccounts, rfl⟩, .initIssuance ..⟩
  | fundReserve supplies =>
      obtain ⟨amount, -, accounts, hcompletes, rfl⟩ :=
        FundDraft.instruction_eq_ok_iff.mp hinstruction
      have haccounts := FundDraft.accounts_eq_ok_iff.mpr hcompletes
      rw [FundDraft.issuance_foldl]
      exact ⟨_, _, Except.map_eq_ok_iff.mpr ⟨accounts, haccounts, rfl⟩, .fundReserve ..⟩
  | deposit supplies =>
      obtain ⟨amount, -, accounts, hcompletes, rfl⟩ :=
        DepositDraft.instruction_eq_ok_iff.mp hinstruction
      have haccounts := DepositDraft.accounts_eq_ok_iff.mpr hcompletes
      rw [DepositDraft.issuance_foldl]
      exact ⟨_, _, Except.map_eq_ok_iff.mpr ⟨accounts, haccounts, rfl⟩, .deposit ..⟩
  | claimReward supplies =>
      obtain ⟨accounts, hcompletes, rfl⟩ := ClaimDraft.instruction_eq_ok_iff.mp hinstruction
      have haccounts := ClaimDraft.accounts_eq_ok_iff.mpr hcompletes
      rw [ClaimDraft.issuance_foldl]
      exact ⟨_, _, Except.map_eq_ok_iff.mpr ⟨accounts, haccounts, rfl⟩, .claimReward ..⟩

namespace Instruction

variable {program : Key} {accounts : AccountList} {payload : Payload} {instruction : Instruction}

theorem build_injective {program' : Key} {accounts' : AccountList} {payload' : Payload}
    (hbuild : build program accounts payload = .ok instruction)
    (hbuild' : build program' accounts' payload' = .ok instruction) :
    program = program' ∧ accounts = accounts' ∧ payload = payload' := by
  have hparts := parts?_eq_some_iff.mpr hbuild
  rw [parts?_eq_some_iff.mpr hbuild'] at hparts
  simp only [Option.some.injEq, Prod.mk.injEq] at hparts
  obtain ⟨hprogram, haccounts, hpayload⟩ := hparts
  exact ⟨hprogram.symm, haccounts.symm, hpayload.symm⟩

/-- Accounts and a payload of one kind build the instruction that the function for that kind makes
of them, and other pairs are refused; a draft's instruction is built from the draft's accounts and
the payload in its bytes; and whatever has been built tells its parts. -/
theorem builders_agree :
    (∀ program accounts payload,
      ((∃ instruction, build program accounts payload = .ok instruction) ↔
        payload.kind = accounts.kind) ∧
      (∀ instruction, build program accounts payload = .ok instruction ↔
        Made program accounts payload instruction) ∧
      ∀ failure, build program accounts payload = .error failure ↔
        payload.kind ≠ accounts.kind ∧
          failure = .configuration (.kindMismatch accounts.kind payload.kind)) ∧
    (∀ (handle : Issuance) (plan : Plan) instruction,
      (plan.draft handle).instruction = .ok instruction →
        ∃ accounts payload, (plan.draft handle).accounts = .ok accounts ∧
          Payload.unpack instruction.data = .ok payload ∧
          build handle.program accounts payload = .ok instruction) ∧
    (∀ program accounts payload instruction,
      build program accounts payload = .ok instruction ↔
        instruction.parts? = some (program, accounts, payload)) ∧
    ∀ program accounts payload program' accounts' payload' instruction,
      build program accounts payload = .ok instruction →
      build program' accounts' payload' = .ok instruction →
        program = program' ∧ accounts.kind = accounts'.kind ∧ accounts = accounts' ∧
          payload = payload' := by
  refine ⟨?_, ?_, ?_, ?_⟩
  · intro program accounts payload
    refine ⟨?_, fun instruction => build_eq_ok_iff_made, fun failure => build_eq_error_iff⟩
    constructor
    · intro hbuilt
      obtain ⟨instruction, hbuild⟩ := hbuilt
      exact (build_eq_ok_iff.mp hbuild).1
    · intro hkind
      exact ⟨_, build_eq_ok_iff.mpr ⟨hkind, rfl⟩⟩
  · intro handle plan instruction hinstruction
    obtain ⟨accounts, payload, haccounts, hmade⟩ := Plan.exists_made hinstruction
    exact ⟨accounts, payload, haccounts, hmade.unpack_eq, build_eq_ok_iff_made.mpr hmade⟩
  · intro program accounts payload instruction
    exact parts?_eq_some_iff.symm
  · intro program accounts payload program' accounts' payload' instruction hbuild hbuild'
    obtain ⟨hprogram, haccounts, hpayload⟩ := build_injective hbuild hbuild'
    exact ⟨hprogram, by rw [haccounts], haccounts, hpayload⟩

def numberedKey (number : UInt8) : Key := ⟨List.replicate 32 number, List.length_replicate⟩

def numberedSupplies : List InitDraft.Supply :=
  [.rewardMint (numberedKey 2), .lockMint (numberedKey 1), .maturity 9,
   .depositEscrow (numberedKey 3), .rewardEscrow (numberedKey 4),
   .platformTreasury (numberedKey 5)]

def numberedAccounts : InitAccounts where
  payer := Issuance.funded.issuer
  issuance := Issuance.funded.address
  lockMint := numberedKey 1
  rewardMint := numberedKey 2
  depositEscrow := numberedKey 3
  rewardEscrow := numberedKey 4
  platformTreasury := numberedKey 5

/-- A draft with a key of its own for every account, a start before the epoch and the largest
reserve: no other accounts and no other payload build its instruction. -/
theorem builders_agree_numbered :
    ∃ instruction,
      ((Plan.initIssuance numberedSupplies).draft Issuance.funded).instruction = .ok instruction ∧
      ((Plan.initIssuance numberedSupplies).draft Issuance.funded).accounts =
        .ok (.initIssuance numberedAccounts) ∧
      build Issuance.funded.program (.initIssuance numberedAccounts)
        (.initIssuance (BitVec.allOnes 128) (-1) 9) = .ok instruction ∧
      instruction.parts? = some (Issuance.funded.program, .initIssuance numberedAccounts,
        .initIssuance (BitVec.allOnes 128) (-1) 9) := by
  have hinstruction :
      ((Plan.initIssuance numberedSupplies).draft Issuance.funded).instruction = .ok
        (Instruction.initIssuance Issuance.funded.program numberedAccounts (BitVec.allOnes 128)
          (-1) 9) := rfl
  obtain ⟨hfunctions, hdrafts, hparts, hunique⟩ := builders_agree
  obtain ⟨-, hmade, -⟩ := hfunctions Issuance.funded.program (.initIssuance numberedAccounts)
    (.initIssuance (BitVec.allOnes 128) (-1) 9)
  have hbuild := (hmade _).mpr (.initIssuance numberedAccounts (BitVec.allOnes 128) (-1) 9)
  -- The draft's accounts build the same instruction as the numbered ones, so they are the same.
  obtain ⟨accounts, payload, haccounts, -, hdraft⟩ := hdrafts _ _ _ hinstruction
  obtain ⟨-, -, rfl, -⟩ := hunique _ _ _ _ _ _ _ hdraft hbuild
  exact ⟨_, hinstruction, haccounts, hbuild, (hparts _ _ _ _).mp hbuild⟩

end Instruction

end IssuanceClient
