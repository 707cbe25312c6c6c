import IssuanceClient.Proofs.DraftFailure
import IssuanceClient.Proofs.DraftSubmission

/-!
When a draft lacks nothing.  As long as every address can be derived, only a missing input makes a
draft fail.  What has been supplied stays supplied, so a draft that lacks nothing goes on lacking
nothing.
-/

namespace IssuanceClient

namespace Plan

open Draft

/-- No address runs out of bumps that is derived before an input is found missing. -/
def Derives (handle : Issuance) (plan : Plan) (needed : List Input) : Prop :=
  ∀ input ∈ needed.takeWhile (· ∈ plan.inputs), ∀ recipe ∈ plan.recipes handle input,
    recipe.derive ≠ .error (.derivationExhausted recipe.program)

/-- If every address can be derived, only a missing input makes a plan fail. -/
theorem findSome?_failure? {handle : Issuance} {plan : Plan} {needed : List Input}
    (hderives : plan.Derives handle needed) :
    needed.findSome? (plan.failure? handle) =
      (needed.find? (· ∉ plan.inputs)).map fun input => .configuration input.fault := by
  induction needed with
  | nil => rfl
  | cons input rest ih =>
      by_cases hthere : input ∈ plan.inputs
      · have htake : (input :: rest).takeWhile (· ∈ plan.inputs) =
            input :: rest.takeWhile (· ∈ plan.inputs) :=
          List.takeWhile_cons_of_pos (decide_eq_true hthere)
        rw [Derives, htake, List.forall_mem_cons] at hderives
        obtain ⟨hinput, hrest⟩ := hderives
        -- An input that is there could fail only by running out of bumps.
        have hnone : plan.failure? handle input = none := by
          rw [failure?, if_pos hthere, List.findSome?_eq_none_iff]
          intro recipe hrecipe
          cases hderive : recipe.derive with
          | ok derived => rfl
          | error failure =>
              have hexhausted := (Recipe.derive_eq_error_iff.mp hderive).1
              exact absurd (hderive.trans (congrArg _ hexhausted)) (hinput recipe hrecipe)
        rw [List.findSome?_cons, hnone, List.find?_cons_of_neg (by simpa using hthere)]
        exact ih hrest
      · rw [List.findSome?_cons, failure?, if_neg hthere,
          List.find?_cons_of_pos (by simpa using hthere)]
        rfl

/-- What is made from a plan is there if all that it needs was supplied, and otherwise fails for the
first input that was not. -/
structure Reports {α : Type} (plan : Plan) (needed : List Input) (outcome : Except Failure α) :
    Prop where
  ok_iff : (∃ result, outcome = .ok result) ↔ needed ⊆ plan.inputs
  error_iff : ∀ failure, outcome = .error failure ↔
    ∃ input, needed.find? (· ∉ plan.inputs) = some input ∧ failure = .configuration input.fault

theorem reports_of_failureOf {α : Type} {handle : Issuance} {plan : Plan} {needed : List Input}
    {outcome : Except Failure α} (hderives : plan.Derives handle needed)
    (houtcome : failureOf outcome = needed.findSome? (plan.failure? handle)) :
    plan.Reports needed outcome := by
  rw [findSome?_failure? hderives] at houtcome
  constructor
  · rw [← failureOf_eq_none_iff, houtcome, Option.map_eq_none_iff, List.find?_eq_none]
    simp [List.subset_def]
  · intro failure
    rw [← failureOf_eq_some_iff, houtcome, Option.map_eq_some_iff]
    exact exists_congr fun input => and_congr_right fun _ => eq_comm

/-- A plan that supplies more after all that another one supplies. -/
inductive Continues : Plan → Plan → Prop
  | initIssuance (supplies more : List InitDraft.Supply) :
      Continues (initIssuance supplies) (initIssuance (supplies ++ more))
  | fundReserve (supplies more : List FundDraft.Supply) :
      Continues (fundReserve supplies) (fundReserve (supplies ++ more))
  | deposit (supplies more : List DepositDraft.Supply) :
      Continues (deposit supplies) (deposit (supplies ++ more))
  | claimReward (supplies more : List ClaimDraft.Supply) :
      Continues (claimReward supplies) (claimReward (supplies ++ more))

theorem Continues.kind_eq {plan further : Plan} (hcontinues : plan.Continues further) :
    further.kind = plan.kind := by
  cases hcontinues <;> rfl

theorem Continues.inputs_subset {plan further : Plan} (hcontinues : plan.Continues further) :
    plan.inputs ⊆ further.inputs := by
  cases hcontinues <;>
    simp only [inputs, List.flatMap_append, List.subset_append_left]

/-- A plan that makes something has supplied all that is needed for it. -/
theorem subset_of_findSome?_failure? {handle : Issuance} {plan : Plan} {needed : List Input}
    (hnone : needed.findSome? (plan.failure? handle) = none) : needed ⊆ plan.inputs := by
  intro input hinput
  have hfailure := List.findSome?_eq_none_iff.mp hnone input hinput
  by_cases hthere : input ∈ plan.inputs
  · exact hthere
  · rw [failure?, if_neg hthere] at hfailure
    cases hfailure

/-- What is there stays there, as far as the addresses can still be derived. -/
theorem Continues.exists_instruction {handle : Issuance} {plan further : Plan}
    (hcontinues : plan.Continues further) {instruction : Instruction}
    (hinstruction : (plan.draft handle).instruction = .ok instruction)
    (hderives : further.Derives handle further.kind.inputs) :
    ∃ instruction, (further.draft handle).instruction = .ok instruction := by
  have hnone := failureOf_eq_none_iff.mpr ⟨instruction, hinstruction⟩
  rw [failureOf_draft_instruction] at hnone
  have hsupplied :=
    List.Subset.trans (subset_of_findSome?_failure? hnone) hcontinues.inputs_subset
  refine (reports_of_failureOf hderives (failureOf_draft_instruction handle further)).ok_iff.mpr ?_
  rw [hcontinues.kind_eq]
  exact hsupplied

/-- Accounts and instruction are there once all their inputs are, at any place and in any order, and
otherwise the failure demands the first input that is missing; an instruction that is there stays
there, and has someone to pay for it. -/
theorem ready_when_supplied (handle : Issuance) :
    (∀ plan : Plan,
      (plan.Derives handle plan.kind.accountInputs →
        plan.Reports plan.kind.accountInputs (plan.draft handle).accounts) ∧
      (plan.Derives handle plan.kind.inputs →
        plan.Reports plan.kind.inputs (plan.draft handle).instruction)) ∧
    (∀ input : Input, (Failure.configuration input.fault).message = input.demand) ∧
    (∀ {plan further : Plan} {instruction : Instruction},
      (plan.draft handle).instruction = .ok instruction → plan.Continues further →
      further.Derives handle further.kind.inputs →
        ∃ instruction, (further.draft handle).instruction = .ok instruction) ∧
    ∀ {plan : Plan} {instruction : Instruction},
      (plan.draft handle).instruction = .ok instruction →
        ∃ payer, (plan.draft handle).payer = .ok payer := by
  refine ⟨fun plan => ⟨fun hderives => ?_, fun hderives => ?_⟩, Input.message_fault,
    fun hinstruction hcontinues hderives => hcontinues.exists_instruction hinstruction hderives,
    fun hinstruction => ?_⟩
  · exact reports_of_failureOf hderives (failureOf_draft_accounts handle plan)
  · exact reports_of_failureOf hderives (failureOf_draft_instruction handle plan)
  · obtain ⟨payer, -, hpayer⟩ := exists_payer hinstruction
    exact ⟨payer, hpayer⟩

/-- The participant's addresses for the funded issuance are found at the first bump. -/
theorem derives_funded {supplies : List DepositDraft.Supply}
    (hparticipant : lastGiven DepositDraft.Supply.participant? supplies = some fundedParticipant)
    (haccount : lastGiven DepositDraft.Supply.participantLockAccount? supplies = none)
    (hsnapshot : lastGiven DepositDraft.Supply.snapshot? supplies = some Snapshot.fundedSnapshot)
    (needed : List Input) : (deposit supplies).Derives Issuance.funded needed := by
  obtain ⟨user, huser⟩ := exists_userState_funded
  obtain ⟨account, htoken⟩ := exists_tokenAccount_funded
  intro input _ recipe hrecipe hexhausted
  have hone : recipe = .userState Issuance.funded.program Issuance.funded.address
      fundedParticipant ∨ recipe = .tokenAccount fundedParticipant (Bytes.zero 32) := by
    cases input <;>
      simp [recipes, tokenRecipes, hparticipant, haccount, hsnapshot] at hrecipe
    · exact .inl hrecipe
    · exact .inr hrecipe
  obtain rfl | rfl := hone
  · cases huser.symm.trans hexhausted
  · cases htoken.symm.trans hexhausted

/-- A deposit for which an amount alone is missing, then with it, then with another one. -/
theorem ready_when_supplied_funded :
    ∃ accounts instruction replaced payer,
      ((deposit [.snapshot Snapshot.fundedSnapshot, .participant fundedParticipant]).draft
        Issuance.funded).accounts = .ok accounts ∧
      ((deposit [.snapshot Snapshot.fundedSnapshot, .participant fundedParticipant]).draft
        Issuance.funded).instruction = .error (.configuration (.missing .amount)) ∧
      (Failure.configuration (.missing .amount)).message =
        "Configuration error: Amount required" ∧
      ((deposit fundedDeposit).draft Issuance.funded).instruction = .ok instruction ∧
      ((deposit fundedDeposit).draft Issuance.funded).payer = .ok payer ∧
      ((deposit (fundedDeposit ++ [.amount 9])).draft Issuance.funded).instruction =
        .ok replaced := by
  obtain ⟨hready, hmessages, hstays, hpays⟩ := ready_when_supplied Issuance.funded
  obtain ⟨haccounts, hlacks⟩ :=
    hready (deposit [.snapshot Snapshot.fundedSnapshot, .participant fundedParticipant])
  obtain ⟨accounts, haccounts⟩ := (haccounts (derives_funded rfl rfl rfl _)).ok_iff.mpr (by decide)
  have hlacks := ((hlacks (derives_funded rfl rfl rfl _)).error_iff _).mpr ⟨.amount, rfl, rfl⟩
  obtain ⟨-, hbuilds⟩ := hready (deposit fundedDeposit)
  obtain ⟨instruction, hinstruction⟩ :=
    (hbuilds (derives_funded rfl rfl rfl _)).ok_iff.mpr (by decide)
  obtain ⟨payer, hpayer⟩ := hpays hinstruction
  obtain ⟨replaced, hreplaced⟩ := hstays hinstruction (.deposit fundedDeposit [.amount 9])
    (derives_funded rfl rfl rfl _)
  exact ⟨accounts, instruction, replaced, payer, haccounts, hlacks, hmessages .amount, hinstruction,
    hpayer, hreplaced⟩

end Plan

end IssuanceClient
