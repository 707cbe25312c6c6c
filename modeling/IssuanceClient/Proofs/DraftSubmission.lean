import IssuanceClient.Proofs.CallOrder
import IssuanceClient.Proofs.InstructionAddresses
import IssuanceClient.Proofs.MessageResolution
import IssuanceClient.Proofs.SubmissionOutcome

/-!
Submitting a draft.  A draft that lacks something is not submitted at all; one that lacks nothing is
submitted as its instruction, and what is sent for it can be read back as that instruction.
-/

namespace IssuanceClient

/-- Every transaction that a run sends carries a message of some sort. -/
def Run.SendsOnly {α : Type} (run : Run α) (start : Timeline) (good : Message → Prop) : Prop :=
  ∃ made, (run start).2.calls = start.calls ++ made ∧
    ∀ timed ∈ made, ∀ transaction, timed.call = .send transaction → good transaction.message

namespace Submission

variable {submission : Submission}

/-- In an orderly log, what is sent is a message compiled from the instructions. -/
theorem Orderly.exists_compile_eq {made : List TimedCall} (horderly : submission.Orderly made)
    {timed : TimedCall} (htimed : timed ∈ made) {transaction : Transaction}
    (hcall : timed.call = .send transaction) :
    ∃ blockhash, transaction.message =
      Message.compile submission.instructions submission.payer blockhash := by
  obtain ⟨position, hposition⟩ := List.mem_iff_getElem?.mp htimed
  have hlogged : Logged made position timed.time (.send transaction) := by
    rw [Logged, hposition, ← hcall]
  obtain ⟨-, blockhash, -, hsigned, -, -⟩ := horderly.sendsSigned _ _ _ hlogged
  exact ⟨blockhash, message_of_signing hsigned⟩

variable (submission) in
/-- Whatever way a submission goes, all that it sends is compiled from its instructions. -/
theorem exists_calls_eq :
    ∃ made, submission.run.2.calls = submission.start.calls ++ made ∧
      ∀ timed ∈ made, ∀ transaction, timed.call = .send transaction →
        ∃ blockhash, transaction.message =
          Message.compile submission.instructions submission.payer blockhash := by
  have hcourse := submission.course_run
  generalize hrun : submission.run = run at hcourse ⊢
  cases hcourse with
  | noInstructions => exact ⟨[], (List.append_nil _).symm, by simp⟩
  | noSigners => exact ⟨[], (List.append_nil _).symm, by simp⟩
  | undated => exact ⟨_, calls_dated, by simp⟩
  | unsigned => exact ⟨_, calls_dated, by simp⟩
  | unsent hsends hsend =>
      have horderly := orderly_sent hsends hsend
      exact ⟨_, calls_sent _, fun timed htimed transaction hcall =>
        horderly.exists_compile_eq htimed hcall⟩
  | waited hgets =>
      obtain ⟨made, hmade, horderly⟩ := exists_orderly_of_gets hgets
      rw [← hrun]
      exact ⟨made, hmade, fun timed htimed transaction hcall =>
        horderly.exists_compile_eq htimed hcall⟩

end Submission

/-- What is sent for some instructions resolves to them. -/
theorem submit_sendsOnly {instructions : List Instruction} {payer : Key}
    (hnamed : (Message.named payer instructions).dedup.length ≤ 256) (connection : Connection)
    (signers : List Signer) (options : SubmitOptions) (start : Timeline) :
    (submit connection instructions payer signers options).SendsOnly start
      (Message.Resolves · payer instructions) := by
  obtain ⟨made, hmade, hsent⟩ :=
    Submission.exists_calls_eq ⟨connection, instructions, payer, signers, options, start⟩
  refine ⟨made, hmade, fun timed htimed transaction hcall => ?_⟩
  obtain ⟨blockhash, hmessage⟩ := hsent timed htimed transaction hcall
  rw [hmessage]
  exact Message.resolves_compile blockhash hnamed

namespace Draft

variable {draft : Draft} (connection : Connection) (signers : List Signer)
  (options : SubmitOptions)

theorem submit_of_error {failure : Failure} (hinstruction : draft.instruction = .error failure)
    (start : Timeline) :
    draft.submit connection signers options start = (.error (.failed failure), start) := by
  rw [submit, hinstruction]
  rfl

theorem submit_of_ok {instruction : Instruction} {payer : Key}
    (hinstruction : draft.instruction = .ok instruction) (hpayer : draft.payer = .ok payer) :
    draft.submit connection signers options =
      IssuanceClient.submit connection [instruction] payer signers options := by
  rw [submit, hinstruction, hpayer]
  rfl

end Draft

namespace Plan

/-- Who is to pay: the issuer, or the participant supplied last. -/
def payer? (handle : Issuance) : Plan → Option Key
  | initIssuance _ => some handle.issuer
  | fundReserve _ => some handle.issuer
  | deposit supplies => Draft.lastGiven DepositDraft.Supply.participant? supplies
  | claimReward supplies => Draft.lastGiven ClaimDraft.Supply.participant? supplies

variable {handle : Issuance} {plan : Plan} {instruction : Instruction}

/-- An instruction has someone to pay for it. -/
theorem exists_payer (hinstruction : (plan.draft handle).instruction = .ok instruction) :
    ∃ payer, plan.payer? handle = some payer ∧ (plan.draft handle).payer = .ok payer := by
  cases plan with
  | initIssuance supplies =>
      refine ⟨handle.issuer, rfl, ?_⟩
      rw [draft, Draft.payer, InitDraft.issuance_foldl]
  | fundReserve supplies =>
      refine ⟨handle.issuer, rfl, ?_⟩
      rw [draft, Draft.payer, FundDraft.issuance_foldl]
  | deposit supplies =>
      obtain ⟨-, -, accounts, hcompletes, -⟩ := DepositDraft.instruction_eq_ok_iff.mp hinstruction
      have hparticipant := hcompletes.participant
      refine ⟨accounts.participant, ?_, Draft.required_eq_ok_iff.mpr hparticipant⟩
      rwa [DepositDraft.participant_foldl, Option.or_none] at hparticipant
  | claimReward supplies =>
      obtain ⟨accounts, hcompletes, -⟩ := ClaimDraft.instruction_eq_ok_iff.mp hinstruction
      have hparticipant := hcompletes.participant
      refine ⟨accounts.participant, ?_, Draft.required_eq_ok_iff.mpr hparticipant⟩
      rwa [ClaimDraft.participant_foldl, Option.or_none] at hparticipant

theorem length_accounts_le (hinstruction : (plan.draft handle).instruction = .ok instruction) :
    instruction.accounts.length ≤ 8 := by
  cases plan with
  | initIssuance supplies =>
      obtain ⟨-, -, accounts, -, rfl⟩ := InitDraft.instruction_eq_ok_iff.mp hinstruction
      exact Nat.le_refl 8
  | fundReserve supplies =>
      obtain ⟨-, -, accounts, -, rfl⟩ := FundDraft.instruction_eq_ok_iff.mp hinstruction
      exact Nat.le_add_right 5 3
  | deposit supplies =>
      obtain ⟨-, -, accounts, -, rfl⟩ := DepositDraft.instruction_eq_ok_iff.mp hinstruction
      exact Nat.le_add_right 7 1
  | claimReward supplies =>
      obtain ⟨accounts, -, rfl⟩ := ClaimDraft.instruction_eq_ok_iff.mp hinstruction
      exact Nat.le_add_right 6 2

/-- An instruction from a draft names few keys. -/
theorem length_named_le (hinstruction : (plan.draft handle).instruction = .ok instruction)
    (payer : Key) : (Message.named payer [instruction]).dedup.length ≤ 256 := by
  have haccounts := length_accounts_le hinstruction
  have hdedup := (List.dedup_sublist (Message.named payer [instruction])).length_le
  have hnamed : (Message.named payer [instruction]).length = instruction.accounts.length + 2 := by
    simp [Message.named, Instruction.uses]
  omega

/-- What is sent is what was built, at the cost of the right payer; and what cannot be built fails
before any call.  So it is for any instructions that name no more keys than a byte can index. -/
theorem submit_sends_built :
    (∀ (handle : Issuance) (plan : Plan) (connection : Connection) (signers : List Signer)
        (options : SubmitOptions),
      (∀ failure, (plan.draft handle).instruction = .error failure → ∀ start,
        (plan.draft handle).submit connection signers options start =
          (.error (.failed failure), start)) ∧
      ∀ instruction, (plan.draft handle).instruction = .ok instruction →
        ∃ payer, plan.payer? handle = some payer ∧
          (plan.draft handle).submit connection signers options =
            submit connection [instruction] payer signers options ∧
          ∀ start, ((plan.draft handle).submit connection signers options).SendsOnly start
            (Message.Resolves · payer [instruction])) ∧
    ∀ (connection : Connection) (instructions : List Instruction) (payer : Key)
        (signers : List Signer) (options : SubmitOptions) (start : Timeline),
      (Message.named payer instructions).dedup.length ≤ 256 →
      (submit connection instructions payer signers options).SendsOnly start
        (Message.Resolves · payer instructions) := by
  constructor
  · intro handle plan connection signers options
    constructor
    · intro failure hinstruction start
      exact Draft.submit_of_error connection signers options hinstruction start
    · intro instruction hinstruction
      obtain ⟨payer, hpayer, hpays⟩ := exists_payer hinstruction
      have hsubmit := Draft.submit_of_ok connection signers options hinstruction hpays
      refine ⟨payer, hpayer, hsubmit, fun start => ?_⟩
      rw [hsubmit]
      exact submit_sendsOnly (length_named_le hinstruction payer) connection signers options start
  · intro connection instructions payer signers options start hnamed
    exact submit_sendsOnly hnamed connection signers options start

/-- The funded issuance, had its issuer the constant signer's key. -/
def signedHandle : Issuance := { Issuance.funded with issuer := Submission.constantSigner.key }

def promptConnection : Connection :=
  (Submission.prompt (Submission.successAfter 0) 0 0 1).connection

/-- Without a maturity nothing is sent; with one, and twice over, something is. -/
theorem submit_sends_built_signed :
    ∃ failure instruction,
      ((initIssuance []).draft signedHandle).instruction = .error failure ∧
      ((initIssuance []).draft signedHandle).submit promptConnection [Submission.constantSigner]
        {} {} = (.error (.failed failure), {}) ∧
      ((initIssuance Issuance.fundedSupplies).draft signedHandle).instruction = .ok instruction ∧
      (∃ payer, (initIssuance Issuance.fundedSupplies).payer? signedHandle = some payer ∧
        (((initIssuance Issuance.fundedSupplies).draft signedHandle).submit promptConnection
          [Submission.constantSigner] {}).SendsOnly {} (Message.Resolves · payer [instruction])) ∧
      (submit promptConnection [instruction, instruction] signedHandle.issuer
        [Submission.constantSigner] {}).SendsOnly {}
          (Message.Resolves · signedHandle.issuer [instruction, instruction]) ∧
      ((submit promptConnection [instruction, instruction] signedHandle.issuer
        [Submission.constantSigner] {} {}).2.calls.any (·.call.isSend)) = true := by
  obtain ⟨hdrafts, hsubmits⟩ := submit_sends_built
  obtain ⟨herror, hok⟩ := hdrafts signedHandle (initIssuance []) promptConnection
    [Submission.constantSigner] {}
  obtain ⟨-, hbuilt⟩ := hdrafts signedHandle (initIssuance Issuance.fundedSupplies) promptConnection
    [Submission.constantSigner] {}
  obtain ⟨payer, hpayer, -, hsends⟩ := hbuilt _ rfl
  exact ⟨_, _, rfl, herror _ rfl {}, rfl, ⟨payer, hpayer, hsends {}⟩,
    hsubmits promptConnection _ signedHandle.issuer [Submission.constantSigner] {} {}
      (by decide +kernel), by decide +kernel⟩

end Plan

end IssuanceClient
