import IssuanceClient.Proofs.DraftFailure
import IssuanceClient.Proofs.DraftSubmission

/-!
How late a submission fails for its configuration.  Whatever is missing is noticed before any call,
but signing takes a blockhash, so a transaction that cannot be signed fails after the call for it.
-/

namespace IssuanceClient

/-- The calls that come before a fault of the configuration is noticed. -/
def ConfigurationFault.callsBefore : ConfigurationFault → List Call
  | unsigned _ => [.latestBlockhash]
  | _ => []

theorem Input.callsBefore_fault (input : Input) : input.fault.callsBefore = [] := by
  cases input <;> rfl

/-- No reply of a connection is a fault of the configuration. -/
structure Connection.NeverConfiguration (connection : Connection) : Prop where
  account : ∀ calls address fault,
    (connection.account calls address).outcome ≠ .error (.configuration fault)
  latestBlockhash : ∀ calls fault,
    (connection.latestBlockhash calls).outcome ≠ .error (.configuration fault)
  send : ∀ calls transaction fault,
    (connection.send calls transaction).outcome ≠ .error (.configuration fault)
  status : ∀ calls signature commitment fault,
    (connection.status calls signature commitment).outcome ≠ .error (.configuration fault)
  logs : ∀ calls signature commitment fault,
    (connection.logs calls signature commitment).outcome ≠ .error (.configuration fault)

/-- A run makes some calls and no others. -/
def Run.Makes {α : Type} (run : Run α) (start : Timeline) (calls : List Call) : Prop :=
  ∃ made, (run start).2.calls = start.calls ++ made ∧ made.map TimedCall.call = calls

namespace Submission

variable {submission : Submission} {fault : ConfigurationFault}

/-- The faults that a submission finds in what it is given. -/
inductive Misconfigured (submission : Submission) : ConfigurationFault → Prop
  | noInstructions (hinstructions : submission.instructions = []) :
      Misconfigured submission .noInstructions
  | noSigners (hinstructions : submission.instructions ≠ []) (hsigners : submission.signers = []) :
      Misconfigured submission .noSigners
  | unsigned (hinstructions : submission.instructions ≠ []) (hsigners : submission.signers ≠ [])
      {blockhash : Blockhash} (hblockhash : submission.blockhashReply.outcome = .ok blockhash)
      {fault : SigningFault} (hsigning : submission.signing blockhash = .error fault) :
      Misconfigured submission (.unsigned fault)

theorem Misconfigured.run_eq (hmisconfigured : submission.Misconfigured fault) :
    submission.run.1 = .error (.failed (.configuration fault)) := by
  cases hmisconfigured with
  | noInstructions hinstructions => exact Outcome.run_eq (.noInstructions hinstructions)
  | noSigners hinstructions hsigners => exact Outcome.run_eq (.noSigners hinstructions hsigners)
  | unsigned hinstructions hsigners hblockhash hsigning =>
      exact Outcome.run_eq (.unsigned hinstructions hsigners hblockhash hsigning)

theorem Misconfigured.exists_calls_eq (hmisconfigured : submission.Misconfigured fault) :
    ∃ made, submission.run.2.calls = submission.start.calls ++ made ∧
      made.map TimedCall.call = fault.callsBefore := by
  cases hmisconfigured with
  | noInstructions hinstructions =>
      rw [run_of_no_instructions hinstructions]
      exact ⟨[], (List.append_nil _).symm, rfl⟩
  | noSigners hinstructions hsigners =>
      rw [run_of_no_signers hinstructions hsigners]
      exact ⟨[], (List.append_nil _).symm, rfl⟩
  | unsigned hinstructions hsigners hblockhash hsigning =>
      rw [run_of_ready hinstructions hsigners, hblockhash]
      simp only [hsigning]
      exact ⟨_, calls_dated, rfl⟩

/-- Unless the connection reports one, a fault of the configuration is the submission's own. -/
theorem misconfigured_of_run (hconnection : submission.connection.NeverConfiguration)
    (hrun : submission.run.1 = .error (.failed (.configuration fault))) :
    submission.Misconfigured fault := by
  obtain ⟨result, houtcome⟩ := submission.exists_outcome
  rw [houtcome.run_eq] at hrun
  subst hrun
  cases houtcome with
  | noInstructions hinstructions => exact .noInstructions hinstructions
  | noSigners hinstructions hsigners => exact .noSigners hinstructions hsigners
  | undated _ _ hblockhash => exact absurd hblockhash (hconnection.latestBlockhash _ _)
  | unsigned hinstructions hsigners hblockhash hsigning =>
      exact .unsigned hinstructions hsigners hblockhash hsigning
  | unsent _ hsend => exact absurd hsend (hconnection.send _ _ _)
  | unanswered _ _ hreply => exact absurd hreply (hconnection.status _ _ _ _)

end Submission

namespace Plan

variable {handle : Issuance} {plan : Plan} {fault : ConfigurationFault}

theorem submit_makes_of_error {connection : Connection}
    (hconnection : connection.NeverConfiguration) {signers : List Signer} {options : SubmitOptions}
    {start : Timeline}
    (hrun : ((plan.draft handle).submit connection signers options start).1 =
      .error (.failed (.configuration fault))) :
    ((plan.draft handle).submit connection signers options).Makes start fault.callsBefore := by
  cases hinstruction : (plan.draft handle).instruction with
  | error failure =>
      rw [Draft.submit_of_error connection signers options hinstruction] at hrun
      cases hrun
      obtain ⟨input, rfl⟩ := exists_input_of_error hinstruction
      refine ⟨[], ?_, input.callsBefore_fault.symm⟩
      rw [Draft.submit_of_error connection signers options hinstruction, List.append_nil]
  | ok instruction =>
      obtain ⟨payer, -, hpayer⟩ := exists_payer hinstruction
      rw [Draft.submit_of_ok connection signers options hinstruction hpayer] at hrun ⊢
      have hmisconfigured : Submission.Misconfigured
          ⟨connection, [instruction], payer, signers, options, start⟩ fault :=
        Submission.misconfigured_of_run hconnection hrun
      exact hmisconfigured.exists_calls_eq

end Plan

namespace Submission

/-- If the connection reports no fault of the configuration, such a fault comes before any call, or
from signing after the blockhash call and nothing else. -/
theorem configuration_failure_calls {connection : Connection}
    (hconnection : connection.NeverConfiguration) (signers : List Signer) (options : SubmitOptions)
    (start : Timeline) (fault : ConfigurationFault) :
    (∀ (instructions : List Instruction) (payer : Key),
      ((submit connection instructions payer signers options start).1 =
          .error (.failed (.configuration fault)) ↔
        Misconfigured ⟨connection, instructions, payer, signers, options, start⟩ fault) ∧
      ((submit connection instructions payer signers options start).1 =
          .error (.failed (.configuration fault)) →
        (submit connection instructions payer signers options).Makes start fault.callsBefore)) ∧
    ∀ (handle : Issuance) (plan : Plan),
      ((plan.draft handle).submit connection signers options start).1 =
          .error (.failed (.configuration fault)) →
        ((plan.draft handle).submit connection signers options).Makes start
          fault.callsBefore := by
  refine ⟨fun instructions payer => ?_, fun handle plan hrun =>
    Plan.submit_makes_of_error hconnection hrun⟩
  have hown (hrun : (submit connection instructions payer signers options start).1 =
      .error (.failed (.configuration fault))) :
      Misconfigured ⟨connection, instructions, payer, signers, options, start⟩ fault :=
    misconfigured_of_run hconnection hrun
  exact ⟨⟨hown, fun hmisconfigured => hmisconfigured.run_eq⟩, fun hrun =>
    (hown hrun).exists_calls_eq⟩

theorem neverConfiguration_prompt :
    Plan.promptConnection.NeverConfiguration := by
  constructor <;> intros <;> exact fun h => (nomatch h)

/-- A signer whom nothing asks to sign, and a draft without a maturity. -/
theorem configuration_failure_calls_prompt :
    Plan.promptConnection.NeverConfiguration ∧
      (submit Plan.promptConnection [⟨Bytes.zero 32, [], []⟩] (Bytes.zero 32) [constantSigner] {}
        {}).1 = .error (.failed (.configuration (.unsigned .keyMismatch))) ∧
      (submit Plan.promptConnection [⟨Bytes.zero 32, [], []⟩] (Bytes.zero 32) [constantSigner]
        {}).Makes {} [.latestBlockhash] ∧
      (((Plan.initIssuance []).draft Issuance.funded).submit Plan.promptConnection [constantSigner]
        {} {}).1 = .error (.failed (.configuration (.missing .maturity))) ∧
      (((Plan.initIssuance []).draft Issuance.funded).submit Plan.promptConnection [constantSigner]
        {}).Makes {} [] := by
  obtain ⟨hsubmits, -⟩ := configuration_failure_calls neverConfiguration_prompt [constantSigner] {}
    {} (.unsigned .keyMismatch)
  obtain ⟨-, hdrafts⟩ := configuration_failure_calls neverConfiguration_prompt [constantSigner] {}
    {} (.missing .maturity)
  obtain ⟨hiff, hmakes⟩ := hsubmits [⟨Bytes.zero 32, [], []⟩] (Bytes.zero 32)
  have hunsigned := hiff.mpr (.unsigned (by decide) (by decide) rfl rfl)
  exact ⟨neverConfiguration_prompt, hunsigned, hmakes hunsigned, rfl, hdrafts _ _ rfl⟩

/-- A transaction that cannot be signed, and a draft whose transaction cannot be, make a call before
they fail for their configuration. -/
theorem configuration_failure_after_call :
    Plan.promptConnection.NeverConfiguration ∧
      ((submit Plan.promptConnection [⟨Bytes.zero 32, [], []⟩] (Bytes.zero 32) [constantSigner] {}
        {}).1 = .error (.failed (.configuration (.unsigned .keyMismatch))) ∧
      (submit Plan.promptConnection [⟨Bytes.zero 32, [], []⟩] (Bytes.zero 32) [constantSigner] {}
        {}).2.calls = [⟨0, .latestBlockhash⟩]) ∧
      (((Plan.initIssuance Issuance.fundedSupplies).draft Issuance.funded).submit
        Plan.promptConnection [constantSigner] {} {}).1 =
          .error (.failed (.configuration (.unsigned .keyMismatch))) ∧
      (((Plan.initIssuance Issuance.fundedSupplies).draft Issuance.funded).submit
        Plan.promptConnection [constantSigner] {} {}).2.calls = [⟨0, .latestBlockhash⟩] := by
  refine ⟨neverConfiguration_prompt, ⟨?_, ?_⟩, ?_, ?_⟩
  all_goals decide +kernel

end Submission

end IssuanceClient
