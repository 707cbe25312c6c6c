import IssuanceClient.Proofs.DraftInputs
import IssuanceClient.Proofs.HighestBump

/-!
How a draft fails.  It asks for its inputs in a fixed order and derives addresses on the way.  An
input fails if it is not there or if an address cannot be derived for it, and the draft fails as the
first of its inputs does.
-/

namespace IssuanceClient

/-- What a draft says for want of an input. -/
def Input.fault : Input → ConfigurationFault
  | .issuerRewardAccount => .missingTokenAccount .issuerRewardAccount
  | .participantLockAccount => .missingTokenAccount .participantLockAccount
  | .participantRewardAccount => .missingTokenAccount .participantRewardAccount
  | input => .missing input

/-- What a failure says for want of an input, word for word. -/
def Input.demand : Input → String
  | .maturity => "Configuration error: Maturity timestamp required"
  | .amount => "Configuration error: Amount required"
  | .participant => "Configuration error: Participant required"
  | .lockMint => "Configuration error: Lock mint required"
  | .rewardMint => "Configuration error: Reward mint required"
  | .depositEscrow => "Configuration error: Deposit escrow required"
  | .rewardEscrow => "Configuration error: Reward escrow required"
  | .platformTreasury => "Configuration error: Platform treasury required"
  | .issuerRewardAccount =>
      "Configuration error: Issuer reward account required " ++
        "(or a state snapshot to derive it from)"
  | .participantLockAccount =>
      "Configuration error: Participant lock account required " ++
        "(or a state snapshot to derive it from)"
  | .participantRewardAccount =>
      "Configuration error: Participant reward account required " ++
        "(or a state snapshot to derive it from)"

theorem Input.message_fault (input : Input) :
    (Failure.configuration input.fault).message = input.demand := by
  cases input <;> rfl

namespace Kind

/-- The inputs of the payload. -/
def payloadInputs : Kind → List Input
  | initIssuance => [.maturity]
  | fundReserve => [.amount]
  | deposit => [.amount]
  | claimReward => []

/-- The inputs of the accounts, in the order in which they are asked for. -/
def accountInputs : Kind → List Input
  | initIssuance => [.lockMint, .rewardMint, .depositEscrow, .rewardEscrow, .platformTreasury]
  | fundReserve => [.issuerRewardAccount, .rewardEscrow]
  | deposit => [.participant, .participantLockAccount, .depositEscrow]
  | claimReward => [.participant, .participantRewardAccount, .rewardEscrow]

/-- The inputs of an instruction, in the order in which they are asked for. -/
def inputs (kind : Kind) : List Input := kind.payloadInputs ++ kind.accountInputs

end Kind

/-! What a supply supplies.  A snapshot stands for the escrow in it, and for a token account, which
can be derived from the mint in it. -/

def InitDraft.Supply.inputs : InitDraft.Supply → List Input
  | .maturity _ => [.maturity]
  | .lockMint _ => [.lockMint]
  | .rewardMint _ => [.rewardMint]
  | .depositEscrow _ => [.depositEscrow]
  | .rewardEscrow _ => [.rewardEscrow]
  | .platformTreasury _ => [.platformTreasury]

def FundDraft.Supply.inputs : FundDraft.Supply → List Input
  | .amount _ => [.amount]
  | .issuerRewardAccount _ => [.issuerRewardAccount]
  | .rewardEscrow _ => [.rewardEscrow]
  | .snapshot _ => [.issuerRewardAccount, .rewardEscrow]

def DepositDraft.Supply.inputs : DepositDraft.Supply → List Input
  | .participant _ => [.participant]
  | .amount _ => [.amount]
  | .participantLockAccount _ => [.participantLockAccount]
  | .depositEscrow _ => [.depositEscrow]
  | .snapshot _ => [.participantLockAccount, .depositEscrow]

def ClaimDraft.Supply.inputs : ClaimDraft.Supply → List Input
  | .participant _ => [.participant]
  | .participantRewardAccount _ => [.participantRewardAccount]
  | .rewardEscrow _ => [.rewardEscrow]
  | .snapshot _ => [.participantRewardAccount, .rewardEscrow]

namespace Draft

/-- The addresses derived for a token account: none if it was supplied. -/
def tokenRecipes (supplied : Option Key) (owner : Key) (mint : Option Key) : List Recipe :=
  match supplied, mint with
  | none, some mint => [.tokenAccount owner mint]
  | _, _ => []

/-- The failure of an outcome, if it has one. -/
def failureOf {α : Type} : Except Failure α → Option Failure
  | .ok _ => none
  | .error failure => some failure

end Draft

namespace Plan

/-- The inputs that a plan supplies. -/
def inputs : Plan → List Input
  | initIssuance supplies => supplies.flatMap InitDraft.Supply.inputs
  | fundReserve supplies => supplies.flatMap FundDraft.Supply.inputs
  | deposit supplies => supplies.flatMap DepositDraft.Supply.inputs
  | claimReward supplies => supplies.flatMap ClaimDraft.Supply.inputs

/-- The addresses that are derived for an input once it is there. -/
def recipes (handle : Issuance) : Plan → Input → List Recipe
  | fundReserve supplies, .issuerRewardAccount =>
      Draft.tokenRecipes (Draft.lastGiven FundDraft.Supply.issuerRewardAccount? supplies)
        handle.issuer
        ((Draft.lastGiven FundDraft.Supply.snapshot? supplies).map Snapshot.rewardMint)
  | deposit supplies, .participant =>
      (Draft.lastGiven DepositDraft.Supply.participant? supplies).toList.map
        (.userState handle.program handle.address)
  | deposit supplies, .participantLockAccount =>
      (Draft.lastGiven DepositDraft.Supply.participant? supplies).toList.flatMap fun owner =>
        Draft.tokenRecipes (Draft.lastGiven DepositDraft.Supply.participantLockAccount? supplies)
          owner ((Draft.lastGiven DepositDraft.Supply.snapshot? supplies).map Snapshot.lockMint)
  | claimReward supplies, .participant =>
      (Draft.lastGiven ClaimDraft.Supply.participant? supplies).toList.map
        (.userState handle.program handle.address)
  | claimReward supplies, .participantRewardAccount =>
      (Draft.lastGiven ClaimDraft.Supply.participant? supplies).toList.flatMap fun owner =>
        Draft.tokenRecipes (Draft.lastGiven ClaimDraft.Supply.participantRewardAccount? supplies)
          owner ((Draft.lastGiven ClaimDraft.Supply.snapshot? supplies).map Snapshot.rewardMint)
  | _, _ => []

/-- How a plan fails on an input: the input is not there, or no address can be derived for it. -/
def failure? (handle : Issuance) (plan : Plan) (input : Input) : Option Failure :=
  if input ∈ plan.inputs then
    (plan.recipes handle input).findSome? fun recipe => Draft.failureOf recipe.derive
  else some (.configuration input.fault)

end Plan

namespace Draft

variable {α β γ : Type}

/-- A step that fails as an input does, and then the steps for the inputs after it. -/
theorem failureOf_bind {first : Except Failure α} {next : α → Except Failure β}
    {fails : Input → Option Failure} {input : Input} {rest : List Input}
    (hfirst : failureOf first = fails input)
    (hnext : ∀ value, first = .ok value → failureOf (next value) = rest.findSome? fails) :
    failureOf (first >>= next) = (input :: rest).findSome? fails := by
  rw [List.findSome?_cons, ← hfirst]
  cases first with
  | error failure => rfl
  | ok value => exact hnext value rfl

theorem failureOf_map (f : α → β) (outcome : Except Failure α) :
    failureOf (f <$> outcome) = failureOf outcome := by
  cases outcome <;> rfl

theorem failureOf_bind_pure (outcome : Except Failure α) (f : α → β) :
    failureOf (outcome >>= fun value => pure (f value)) = failureOf outcome := by
  cases outcome <;> rfl

theorem failureOf_eq_none_iff {outcome : Except Failure α} :
    failureOf outcome = none ↔ ∃ result, outcome = .ok result := by
  cases outcome <;> simp [failureOf]

theorem failureOf_eq_some_iff {outcome : Except Failure α} {failure : Failure} :
    failureOf outcome = some failure ↔ outcome = .error failure := by
  cases outcome <;> simp [failureOf]

theorem failureOf_required (value : Option α) (input : Input) :
    failureOf (required value input) =
      if value.isSome then none else some (.configuration (.missing input)) := by
  cases value <;> rfl

theorem failureOf_tokenAccount (supplied : Option Key) (owner : Key) (mint : Option Key)
    (input : Input) :
    failureOf (tokenAccount supplied owner mint input) =
      if supplied.isSome || mint.isSome then
        (tokenRecipes supplied owner mint).findSome? fun recipe => failureOf recipe.derive
      else some (.configuration (.missingTokenAccount input)) := by
  cases supplied with
  | some account => rfl
  | none =>
      cases mint with
      | none => rfl
      | some mint =>
          have hone : ((tokenRecipes none owner (some mint)).findSome? fun recipe =>
              failureOf recipe.derive) = failureOf (Address.tokenAccount owner mint) :=
            List.findSome?_singleton
          rw [tokenAccount, hone, failureOf_bind_pure]
          rfl

/-- Something was given last if it was given at all. -/
theorem isSome_lastGiven (given : α → Option β) (supplies : List α) :
    (lastGiven given supplies).isSome = supplies.any fun supply => (given supply).isSome := by
  induction supplies with
  | nil => rfl
  | cons supply supplies ih =>
      rw [lastGiven_cons, Option.isSome_or, ih, List.any_cons, Bool.or_comm]

theorem decide_mem_flatMap (inputs : α → List Input) (supplies : List α) (input : Input) :
    decide (input ∈ supplies.flatMap inputs) =
      supplies.any fun supply => decide (input ∈ inputs supply) := by
  rw [Bool.eq_iff_iff]
  simp

variable {given : α → Option β} {other : α → Option γ} {inputs : α → List Input} {input : Input}

theorem isSome_lastGiven_eq
    (hgiven : ∀ supply, (given supply).isSome = decide (input ∈ inputs supply))
    (supplies : List α) :
    (lastGiven given supplies).isSome = decide (input ∈ supplies.flatMap inputs) := by
  rw [isSome_lastGiven, decide_mem_flatMap, funext hgiven]

/-- An input that can be given in two ways. -/
theorem isSome_lastGiven_or_eq
    (hgiven : ∀ supply,
      ((given supply).isSome || (other supply).isSome) = decide (input ∈ inputs supply))
    (supplies : List α) :
    ((lastGiven given supplies).isSome || (lastGiven other supplies).isSome) =
      decide (input ∈ supplies.flatMap inputs) := by
  rw [isSome_lastGiven, isSome_lastGiven, decide_mem_flatMap, ← funext hgiven]
  induction supplies with
  | nil => rfl
  | cons supply supplies ih =>
      simp only [List.any_cons, ← ih]
      rw [Bool.or_assoc, Bool.or_assoc, Bool.or_left_comm (supplies.any _)]

end Draft

namespace Plan

open Draft

section Steps

variable {handle : Issuance} {plan : Plan} {input : Input} {rest : List Input} {α β : Type}

theorem failureOf_required {value : Option α}
    (hvalue : value.isSome = decide (input ∈ plan.inputs))
    (hrecipes : plan.recipes handle input = []) (hfault : input.fault = .missing input) :
    failureOf (required value input) = plan.failure? handle input := by
  rw [Draft.failureOf_required, failure?, hrecipes, hfault, hvalue]
  simp

theorem failureOf_tokenAccount {supplied mint : Option Key} {owner : Key}
    (hvalue : (supplied.isSome || mint.isSome) = decide (input ∈ plan.inputs))
    (hrecipes : plan.recipes handle input = tokenRecipes supplied owner mint)
    (hfault : input.fault = .missingTokenAccount input) :
    failureOf (tokenAccount supplied owner mint input) = plan.failure? handle input := by
  rw [Draft.failureOf_tokenAccount, failure?, hrecipes, hfault, hvalue]
  simp

/-- A participant is asked for, and the address of the participant's state is derived. -/
theorem failureOf_participant {participant : Option Key}
    {next : Key → DerivedAddress → Except Failure β}
    (hvalue : participant.isSome = decide (.participant ∈ plan.inputs))
    (hrecipes : plan.recipes handle .participant =
      participant.toList.map (.userState handle.program handle.address))
    (hnext : ∀ key user, participant = some key →
      failureOf (next key user) = rest.findSome? (plan.failure? handle)) :
    failureOf (required participant .participant >>= fun key =>
      handle.userState key >>= next key) =
        (.participant :: rest).findSome? (plan.failure? handle) := by
  cases participant with
  | none =>
      have hmissing : Input.participant ∉ plan.inputs := by simpa using hvalue
      rw [List.findSome?_cons, failure?, if_neg hmissing]
      rfl
  | some key =>
      have hthere : Input.participant ∈ plan.inputs := by simpa using hvalue
      have huser : failureOf (handle.userState key) = plan.failure? handle .participant := by
        rw [failure?, if_pos hthere, hrecipes, Option.toList_some, List.map_singleton,
          List.findSome?_singleton]
        rfl
      change failureOf (handle.userState key >>= next key) = _
      exact failureOf_bind huser fun user _ => hnext key user rfl

end Steps

theorem failureOf_draft_accounts (handle : Issuance) (plan : Plan) :
    failureOf (plan.draft handle).accounts =
      plan.kind.accountInputs.findSome? (plan.failure? handle) := by
  cases plan with
  | initIssuance supplies =>
      have hrequired {given : InitDraft.Supply → Option Key} {input : Input}
          (hgiven : ∀ supply, (given supply).isSome = decide (input ∈ supply.inputs))
          (hfault : input.fault = .missing input) :
          failureOf (required (lastGiven given supplies) input) =
            (initIssuance supplies).failure? handle input :=
        failureOf_required (isSome_lastGiven_eq hgiven supplies) rfl hfault
      rw [draft, InitDraft.foldl_supply, accounts, failureOf_map, InitDraft.accounts]
      refine failureOf_bind (hrequired (fun supply => by cases supply <;> rfl) rfl) fun _ _ => ?_
      refine failureOf_bind (hrequired (fun supply => by cases supply <;> rfl) rfl) fun _ _ => ?_
      refine failureOf_bind (hrequired (fun supply => by cases supply <;> rfl) rfl) fun _ _ => ?_
      refine failureOf_bind (hrequired (fun supply => by cases supply <;> rfl) rfl) fun _ _ => ?_
      refine failureOf_bind (hrequired (fun supply => by cases supply <;> rfl) rfl) fun _ _ => ?_
      rfl
  | fundReserve supplies =>
      rw [draft, FundDraft.foldl_supply, accounts, failureOf_map, FundDraft.accounts]
      refine failureOf_bind (failureOf_tokenAccount ?_ rfl rfl) fun _ _ => ?_
      · rw [Option.isSome_map]
        exact isSome_lastGiven_or_eq (fun supply => by cases supply <;> rfl) supplies
      refine failureOf_bind (failureOf_required ?_ rfl rfl) fun _ _ => rfl
      exact isSome_lastGiven_eq (fun supply => by cases supply <;> rfl) supplies
  | deposit supplies =>
      rw [draft, DepositDraft.foldl_supply, accounts, failureOf_map, DepositDraft.accounts]
      refine failureOf_participant ?_ rfl fun participant _ hparticipant => ?_
      · exact isSome_lastGiven_eq (fun supply => by cases supply <;> rfl) supplies
      -- From here on there is a participant, who owns the token account.
      refine failureOf_bind (failureOf_tokenAccount ?_ ?_ rfl) fun _ _ => ?_
      · rw [Option.isSome_map]
        exact isSome_lastGiven_or_eq (fun supply => by cases supply <;> rfl) supplies
      · dsimp only at hparticipant
        simp only [recipes, hparticipant, Option.toList_some, List.flatMap_singleton]
      refine failureOf_bind (failureOf_required ?_ rfl rfl) fun _ _ => rfl
      exact isSome_lastGiven_eq (fun supply => by cases supply <;> rfl) supplies
  | claimReward supplies =>
      rw [draft, ClaimDraft.foldl_supply, accounts, failureOf_map, ClaimDraft.accounts]
      refine failureOf_participant ?_ rfl fun participant _ hparticipant => ?_
      · exact isSome_lastGiven_eq (fun supply => by cases supply <;> rfl) supplies
      refine failureOf_bind (failureOf_tokenAccount ?_ ?_ rfl) fun _ _ => ?_
      · rw [Option.isSome_map]
        exact isSome_lastGiven_or_eq (fun supply => by cases supply <;> rfl) supplies
      · dsimp only at hparticipant
        simp only [recipes, hparticipant, Option.toList_some, List.flatMap_singleton]
      refine failureOf_bind (failureOf_required ?_ rfl rfl) fun _ _ => rfl
      exact isSome_lastGiven_eq (fun supply => by cases supply <;> rfl) supplies

/-- An instruction fails for want of its amount or maturity, or else as its accounts do. -/
theorem failureOf_draft_instruction (handle : Issuance) (plan : Plan) :
    failureOf (plan.draft handle).instruction =
      plan.kind.inputs.findSome? (plan.failure? handle) := by
  have haccounts := failureOf_draft_accounts handle plan
  cases plan with
  | initIssuance supplies =>
      rw [draft, InitDraft.foldl_supply, accounts, failureOf_map] at haccounts
      rw [draft, InitDraft.foldl_supply, instruction, InitDraft.instruction]
      refine failureOf_bind (failureOf_required ?_ rfl rfl) fun maturity _ => ?_
      · exact isSome_lastGiven_eq (fun supply => by cases supply <;> rfl) supplies
      · rw [failureOf_bind_pure, haccounts]
        rfl
  | fundReserve supplies =>
      rw [draft, FundDraft.foldl_supply, accounts, failureOf_map] at haccounts
      rw [draft, FundDraft.foldl_supply, instruction, FundDraft.instruction]
      refine failureOf_bind (failureOf_required ?_ rfl rfl) fun amount _ => ?_
      · exact isSome_lastGiven_eq (fun supply => by cases supply <;> rfl) supplies
      · rw [failureOf_bind_pure, haccounts]
        rfl
  | deposit supplies =>
      rw [draft, DepositDraft.foldl_supply, accounts, failureOf_map] at haccounts
      rw [draft, DepositDraft.foldl_supply, instruction, DepositDraft.instruction]
      refine failureOf_bind (failureOf_required ?_ rfl rfl) fun amount _ => ?_
      · exact isSome_lastGiven_eq (fun supply => by cases supply <;> rfl) supplies
      · rw [failureOf_bind_pure, haccounts]
        rfl
  | claimReward supplies =>
      rw [draft, accounts, failureOf_map] at haccounts
      rw [draft, instruction, ClaimDraft.instruction, failureOf_bind_pure, haccounts]
      rfl

/-- A plan fails for its configuration only if an input is missing. -/
theorem exists_input_of_error {handle : Issuance} {plan : Plan} {fault : ConfigurationFault}
    (hinstruction : (plan.draft handle).instruction = .error (.configuration fault)) :
    ∃ input : Input, fault = input.fault := by
  have hfailure := failureOf_eq_some_iff.mpr hinstruction
  rw [failureOf_draft_instruction] at hfailure
  obtain ⟨input, -, hinput⟩ := List.exists_of_findSome?_eq_some hfailure
  by_cases hthere : input ∈ plan.inputs
  · rw [failure?, if_pos hthere] at hinput
    obtain ⟨recipe, -, hrecipe⟩ := List.exists_of_findSome?_eq_some hinput
    obtain ⟨hexhausted, -⟩ :=
      Recipe.derive_eq_error_iff.mp (failureOf_eq_some_iff.mp hrecipe)
    cases hexhausted
  · rw [failure?, if_neg hthere, Option.some.injEq, Failure.configuration.injEq] at hinput
    exact ⟨input, hinput.symm⟩

end Plan

end IssuanceClient
