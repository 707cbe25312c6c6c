import IssuanceClient.Proofs.IssuanceLookup
import IssuanceClient.Proofs.PayloadRoundTrip

/-!
The addresses in an instruction.  A program derives the addresses of its accounts again and refuses
an instruction that names others, so what a draft puts at each position has to be what the program
will derive from the payload and from the other positions.
-/

namespace IssuanceClient

/-- The key of the account at a position. -/
def Instruction.key? (instruction : Instruction) (position : Nat) : Option Key :=
  instruction.accounts[position]?.map AccountMeta.key

namespace Issuance

/-- The ways to come by a handle. -/
inductive Obtained : Issuance → Prop
  | derived {program issuer : Key} {start : Int64} {reserve : UInt128} {handle : Issuance}
      (hderive : derive program issuer start reserve = .ok handle) : Obtained handle
  | fetched {connection : Connection} {program address : Key} {timeline : Timeline}
      {handle : Issuance} {found : IssuanceAccount}
      (hfetch : (fetchAt connection program address timeline).1 = .ok (handle, found)) :
      Obtained handle

/-- However a handle came about, its address and bump are those of its seeds. -/
theorem Obtained.address_eq {handle : Issuance} (hobtained : handle.Obtained) :
    Address.issuance handle.program handle.issuer handle.start handle.reserve =
      .ok ⟨handle.address, handle.bump⟩ := by
  cases hobtained with
  | derived hderive =>
      obtain ⟨hissuance, rfl, rfl, rfl, rfl⟩ := derive_eq_ok_iff.mp hderive
      exact hissuance
  | fetched hfetch =>
      obtain ⟨-, hderive, -⟩ := fetchAt_eq_ok_iff.mp hfetch
      obtain ⟨hissuance, rfl, hissuer, hstart, hreserve⟩ := derive_eq_ok_iff.mp hderive
      rw [hissuer, hstart, hreserve]
      exact hissuance

end Issuance

/-- The accounts of a participant: the issuance comes first, the second key is derived from it and
from the participant, who is the third, and the fourth is the participant's for a mint unless
another one was supplied. -/
structure Instruction.Serves (instruction : Instruction) (handle : Issuance) (participant : Key)
    (supplied mint : Option Key) : Prop where
  issuance : instruction.key? 0 = some handle.address
  userState : ∃ derived, instruction.key? 1 = some derived.address ∧
    Address.userState instruction.program handle.address participant = .ok derived
  signer : instruction.key? 2 = some participant
  tokenAccount : ∃ account, instruction.key? 3 = some account ∧
    Draft.TokenAccount supplied participant mint account

theorem Instruction.serves_of_prefix {instruction : Instruction} {handle : Issuance}
    {participant account : Key} {supplied mint : Option Key} {derived : DerivedAddress}
    (hkeys : [handle.address, derived.address, participant, account] <+:
      instruction.accounts.map AccountMeta.key)
    (huser : Address.userState instruction.program handle.address participant = .ok derived)
    (haccount : Draft.TokenAccount supplied participant mint account) :
    instruction.Serves handle participant supplied mint := by
  obtain ⟨rest, hrest⟩ := hkeys
  have hkey (position : Nat) : instruction.key? position =
      ([handle.address, derived.address, participant, account] ++ rest)[position]? := by
    rw [key?, ← List.getElem?_map, hrest]
  exact ⟨hkey 0, ⟨derived, hkey 1, huser⟩, hkey 2, account, hkey 3, haccount⟩

/-- What an instruction for a plan has to say to a program that derives every address again. -/
def Plan.Agrees (handle : Issuance) (instruction : Instruction) : Plan → Prop
  | initIssuance supplies =>
      ∃ reserve start maturity payer address,
        Payload.unpack instruction.data = .ok (.initIssuance reserve start maturity) ∧
        instruction.key? 0 = some payer ∧ instruction.key? 1 = some address ∧
        Address.issuance instruction.program payer start reserve = .ok ⟨address, handle.bump⟩ ∧
        Draft.lastGiven InitDraft.Supply.maturity? supplies = some maturity
  | fundReserve supplies =>
      instruction.key? 0 = some handle.address ∧ instruction.key? 1 = some handle.issuer ∧
      ∃ account, instruction.key? 2 = some account ∧
        Draft.TokenAccount (Draft.lastGiven FundDraft.Supply.issuerRewardAccount? supplies)
          handle.issuer
          ((Draft.lastGiven FundDraft.Supply.snapshot? supplies).map Snapshot.rewardMint) account
  | deposit supplies =>
      ∃ participant, Draft.lastGiven DepositDraft.Supply.participant? supplies = some participant ∧
        instruction.Serves handle participant
          (Draft.lastGiven DepositDraft.Supply.participantLockAccount? supplies)
          ((Draft.lastGiven DepositDraft.Supply.snapshot? supplies).map Snapshot.lockMint)
  | claimReward supplies =>
      ∃ participant, Draft.lastGiven ClaimDraft.Supply.participant? supplies = some participant ∧
        instruction.Serves handle participant
          (Draft.lastGiven ClaimDraft.Supply.participantRewardAccount? supplies)
          ((Draft.lastGiven ClaimDraft.Supply.snapshot? supplies).map Snapshot.rewardMint)

namespace Plan

variable {handle : Issuance} {instruction : Instruction}

theorem agrees_initIssuance {supplies : List InitDraft.Supply}
    (haddress : Address.issuance handle.program handle.issuer handle.start handle.reserve =
      .ok ⟨handle.address, handle.bump⟩)
    (hinstruction : ((initIssuance supplies).draft handle).instruction = .ok instruction) :
    instruction.program = handle.program ∧ (initIssuance supplies).Agrees handle instruction := by
  obtain ⟨maturity, hmaturity, accounts, hcompletes, rfl⟩ :=
    InitDraft.instruction_eq_ok_iff.mp hinstruction
  rw [InitDraft.maturity_foldl, Option.or_none] at hmaturity
  have hpayer := hcompletes.payer
  have hissuance := hcompletes.issuance
  rw [InitDraft.issuance_foldl] at hpayer hissuance ⊢
  refine ⟨rfl, handle.reserve, handle.start, maturity, handle.issuer, handle.address,
    Payload.unpack_pack (.initIssuance handle.reserve handle.start maturity), ?_, ?_, haddress,
    hmaturity⟩
  · rw [hpayer]
    rfl
  · rw [hissuance]
    rfl

theorem agrees_fundReserve {supplies : List FundDraft.Supply}
    (hinstruction : ((fundReserve supplies).draft handle).instruction = .ok instruction) :
    instruction.program = handle.program ∧ (fundReserve supplies).Agrees handle instruction := by
  obtain ⟨amount, -, accounts, hcompletes, rfl⟩ := FundDraft.instruction_eq_ok_iff.mp hinstruction
  obtain ⟨hissuance, hissuer, haccount, -⟩ := hcompletes
  rw [FundDraft.issuance_foldl] at hissuance hissuer ⊢
  rw [FundDraft.issuance_foldl, FundDraft.issuerRewardAccount_foldl, FundDraft.rewardMint_foldl,
    Option.or_none, Option.or_none] at haccount
  refine ⟨rfl, ?_, ?_, accounts.issuerRewardAccount, rfl, haccount⟩
  · rw [hissuance]
    rfl
  · rw [hissuer]
    rfl

theorem agrees_deposit {supplies : List DepositDraft.Supply}
    (hinstruction : ((deposit supplies).draft handle).instruction = .ok instruction) :
    instruction.program = handle.program ∧ (deposit supplies).Agrees handle instruction := by
  obtain ⟨amount, -, accounts, hcompletes, rfl⟩ :=
    DepositDraft.instruction_eq_ok_iff.mp hinstruction
  obtain ⟨hissuance, ⟨derived, huser, hderived⟩, hparticipant, haccount, -⟩ := hcompletes
  rw [DepositDraft.issuance_foldl] at hissuance huser ⊢
  rw [DepositDraft.participant_foldl, Option.or_none] at hparticipant
  rw [DepositDraft.participantLockAccount_foldl, DepositDraft.lockMint_foldl, Option.or_none,
    Option.or_none] at haccount
  refine ⟨rfl, accounts.participant, hparticipant,
    Instruction.serves_of_prefix ?_ huser haccount⟩
  rw [hissuance, hderived]
  exact ⟨_, rfl⟩

theorem agrees_claimReward {supplies : List ClaimDraft.Supply}
    (hinstruction : ((claimReward supplies).draft handle).instruction = .ok instruction) :
    instruction.program = handle.program ∧ (claimReward supplies).Agrees handle instruction := by
  obtain ⟨accounts, hcompletes, rfl⟩ := ClaimDraft.instruction_eq_ok_iff.mp hinstruction
  obtain ⟨hissuance, ⟨derived, huser, hderived⟩, hparticipant, haccount, -⟩ := hcompletes
  rw [ClaimDraft.issuance_foldl] at hissuance huser ⊢
  rw [ClaimDraft.participant_foldl, Option.or_none] at hparticipant
  rw [ClaimDraft.participantRewardAccount_foldl, ClaimDraft.rewardMint_foldl, Option.or_none,
    Option.or_none] at haccount
  refine ⟨rfl, accounts.participant, hparticipant,
    Instruction.serves_of_prefix ?_ huser haccount⟩
  rw [hissuance, hderived]
  exact ⟨_, rfl⟩

/-- Whatever is supplied, and in whatever order, an instruction from a handle names the addresses
that its program will derive. -/
theorem instruction_agrees (hobtained : handle.Obtained) (plan : Plan)
    (hinstruction : (plan.draft handle).instruction = .ok instruction) :
    instruction.program = handle.program ∧ plan.Agrees handle instruction := by
  cases plan with
  | initIssuance supplies => exact agrees_initIssuance hobtained.address_eq hinstruction
  | fundReserve supplies => exact agrees_fundReserve hinstruction
  | deposit supplies => exact agrees_deposit hinstruction
  | claimReward supplies => exact agrees_claimReward hinstruction

def fundedParticipant : Key := ⟨List.replicate 32 5, rfl⟩

/-- A participant supplies a snapshot, and in it the mint and the escrow. -/
def fundedDeposit : List DepositDraft.Supply :=
  [.participant fundedParticipant, .amount 7, .snapshot Snapshot.fundedSnapshot]

/-- The address of the participant's state is found at the first bump. -/
theorem exists_userState_funded :
    ∃ user, Issuance.funded.userState fundedParticipant = .ok user :=
  ⟨_, (Recipe.userState Issuance.funded.program Issuance.funded.address
    fundedParticipant).derive_of_first (by rw [Ed25519.isPoint_eq_powerWithin]; decide +kernel)⟩

theorem exists_tokenAccount_funded :
    ∃ account, Address.tokenAccount fundedParticipant (Bytes.zero 32) = .ok account :=
  ⟨_, (Recipe.tokenAccount fundedParticipant (Bytes.zero 32)).derive_of_first
    (by rw [Ed25519.isPoint_eq_powerWithin]; decide +kernel)⟩

/-- A deposit without a token account of its own. -/
theorem instruction_agrees_funded :
    ∃ instruction account,
      Issuance.funded.Obtained ∧
      ((deposit fundedDeposit).draft Issuance.funded).instruction = .ok instruction ∧
      instruction.program = Issuance.funded.program ∧
      (deposit fundedDeposit).Agrees Issuance.funded instruction ∧
      Address.tokenAccount fundedParticipant (Bytes.zero 32) = .ok account ∧
      instruction.key? 3 = some account.address := by
  obtain ⟨user, huser⟩ := exists_userState_funded
  obtain ⟨account, haccount⟩ := exists_tokenAccount_funded
  have hcompletes :
      (fundedDeposit.foldl DepositDraft.supply { issuance := Issuance.funded }).Completes
        ⟨Issuance.funded.address, user.address, fundedParticipant, account.address,
          Bytes.zero 32⟩ :=
    ⟨rfl, ⟨user, huser, rfl⟩, rfl, Or.inr ⟨rfl, _, account, rfl, haccount, rfl⟩, rfl⟩
  have hinstruction := DepositDraft.instruction_eq_ok_iff.mpr ⟨7, rfl, _, hcompletes, rfl⟩
  have hobtained : Issuance.funded.Obtained := .derived Issuance.derive_funded
  obtain ⟨hprogram, hagrees⟩ := instruction_agrees hobtained (deposit fundedDeposit) hinstruction
  exact ⟨_, account, hobtained, hinstruction, hprogram, hagrees, haccount, rfl⟩

end Plan

end IssuanceClient
