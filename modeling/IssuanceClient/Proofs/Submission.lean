import IssuanceClient.Proofs.Wait

/-!
The course of a submission.  It goes through a blockhash call, signing, a send and a wait, and may
end after each of them; `Course` has one constructor for each way to end, and every run takes one of
them.
-/

namespace IssuanceClient

/-- What a submission is given, and where on the timeline it begins. -/
structure Submission where
  connection : Connection
  instructions : List Instruction
  payer : Key
  signers : List Signer
  options : SubmitOptions
  start : Timeline

namespace Submission

variable (submission : Submission)

def run : Except Stop Signature × Timeline :=
  submit submission.connection submission.instructions submission.payer submission.signers
    submission.options submission.start

def blockhashReply : Reply Blockhash :=
  submission.connection.latestBlockhash submission.start.calls

def dated : Timeline :=
  (submission.start.record .latestBlockhash).receive submission.blockhashReply.delay

def signing (blockhash : Blockhash) : Except SigningFault Transaction :=
  (Message.compile submission.instructions submission.payer blockhash).sign submission.signers

def sendReply (transaction : Transaction) : Reply Signature :=
  submission.connection.send submission.dated.calls transaction

/-- The timeline on which the signature of what was sent has arrived. -/
def sent (transaction : Transaction) : Timeline :=
  (submission.dated.record (.send transaction)).receive (submission.sendReply transaction).delay

def wait (transaction : Transaction) (signature : Signature) : Wait where
  connection := submission.connection
  signature := signature
  options := submission.options
  start := submission.sent transaction

/-- The reply to the log call for a signature if it is made on a given timeline. -/
def logsReply (signature : Signature) (timeline : Timeline) : Reply (Option (List String)) :=
  submission.connection.logs timeline.calls signature submission.options.commitment

def explained (signature : Signature) (timeline : Timeline) : Timeline :=
  (timeline.record (.logs signature submission.options.commitment)).receive
    (submission.logsReply signature timeline).delay

/-- The lines that a rejection shows: those that the log call gave, if it gave any. -/
def logLines (signature : Signature) (timeline : Timeline) : List String :=
  match (submission.logsReply signature timeline).outcome with
  | .ok lines => lines.getD []
  | .error _ => []

/-- The transaction that the submission sends. -/
structure Sends (transaction : Transaction) : Prop where
  instructions : submission.instructions ≠ []
  signers : submission.signers ≠ []
  blockhash : submission.blockhashReply.outcome = .ok transaction.message.blockhash
  signed : submission.signing transaction.message.blockhash = .ok transaction

/-- The transaction that the submission sends, and the signature that it gets for it. -/
structure Gets (transaction : Transaction) (signature : Signature) : Prop
    extends submission.Sends transaction where
  accepted : (submission.sendReply transaction).outcome = .ok signature

/-- What the end of a wait makes of the submission. -/
def settle (signature : Signature) :
    Except Stop Status × Timeline → Except Stop Signature × Timeline
  | (.error stop, after) => (.error stop, after)
  | (.ok (.ok ()), after) => (.ok signature, after)
  | (.ok (.error fault), after) =>
      (.error (.failed (.rejected (some signature) fault.message
        (submission.logLines signature after))), submission.explained signature after)

/-- The ways in which a submission goes: its result and the timeline it leaves. -/
inductive Course : Except Stop Signature × Timeline → Prop
  | noInstructions (hinstructions : submission.instructions = []) :
      Course (.error (.failed (.configuration .noInstructions)), submission.start)
  | noSigners (hinstructions : submission.instructions ≠ []) (hsigners : submission.signers = []) :
      Course (.error (.failed (.configuration .noSigners)), submission.start)
  | undated (hinstructions : submission.instructions ≠ []) (hsigners : submission.signers ≠ [])
      {failure : Failure} (hblockhash : submission.blockhashReply.outcome = .error failure) :
      Course (.error (.failed failure), submission.dated)
  | unsigned (hinstructions : submission.instructions ≠ []) (hsigners : submission.signers ≠ [])
      {blockhash : Blockhash} (hblockhash : submission.blockhashReply.outcome = .ok blockhash)
      {fault : SigningFault} (hsigning : submission.signing blockhash = .error fault) :
      Course (.error (.failed (.configuration (.unsigned fault))), submission.dated)
  | unsent {transaction : Transaction} (hsends : submission.Sends transaction) {failure : Failure}
      (hsend : (submission.sendReply transaction).outcome = .error failure) :
      Course (.error (.failed failure), submission.sent transaction)
  | waited {transaction : Transaction} {signature : Signature}
      (hgets : submission.Gets transaction signature) :
      Course (submission.settle signature (submission.wait transaction signature).run)

end Submission

/-- What a signed message has been through: every signature found its position, and none is left
out. -/
theorem Message.sign_eq_ok_iff {message : Message} {signers : List Signer}
    {transaction : Transaction} :
    message.sign signers = .ok transaction ↔
      ∃ positions signatures, message.positions? signers = some positions ∧
        message.signatures signers = .ok signatures ∧
        Signature.missing ∉ message.place positions signatures ∧
        transaction = ⟨message.place positions signatures, message⟩ := by
  rw [Message.sign]
  cases message.positions? signers with
  | none => simp [throw, throwThe, MonadExceptOf.throw]
  | some positions =>
      cases message.signatures signers with
      | error fault => simp [bind, Except.bind]
      | ok signatures =>
          by_cases hmissing : Signature.missing ∈ message.place positions signatures
          · simp [bind, Except.bind, hmissing, throw, throwThe, MonadExceptOf.throw]
          · simp [bind, Except.bind, hmissing, pure, Except.pure, eq_comm]

namespace Submission

theorem message_of_signing {submission : Submission} {blockhash : Blockhash}
    {transaction : Transaction} (hsigning : submission.signing blockhash = .ok transaction) :
    transaction.message =
      Message.compile submission.instructions submission.payer blockhash := by
  obtain ⟨positions, signatures, _, _, _, rfl⟩ := Message.sign_eq_ok_iff.mp hsigning
  rfl

theorem missing_notMem_of_signing {submission : Submission} {blockhash : Blockhash}
    {transaction : Transaction} (hsigning : submission.signing blockhash = .ok transaction) :
    Signature.missing ∉ transaction.signatures := by
  obtain ⟨positions, signatures, _, _, hmissing, rfl⟩ := Message.sign_eq_ok_iff.mp hsigning
  exact hmissing

section Run

variable {submission : Submission}

theorem sends_of_signing (hinstructions : submission.instructions ≠ [])
    (hsigners : submission.signers ≠ []) {blockhash : Blockhash}
    (hblockhash : submission.blockhashReply.outcome = .ok blockhash) {transaction : Transaction}
    (hsigning : submission.signing blockhash = .ok transaction) : submission.Sends transaction := by
  have hmessage : transaction.message.blockhash = blockhash := by
    rw [message_of_signing hsigning]
    rfl
  exact ⟨hinstructions, hsigners, hmessage ▸ hblockhash, hmessage ▸ hsigning⟩

theorem run_of_no_instructions (hinstructions : submission.instructions = []) :
    submission.run = (.error (.failed (.configuration .noInstructions)), submission.start) := by
  rw [run, submit, hinstructions]
  rfl

theorem run_of_no_signers (hinstructions : submission.instructions ≠ [])
    (hsigners : submission.signers = []) :
    submission.run = (.error (.failed (.configuration .noSigners)), submission.start) := by
  rw [run, submit, if_neg (by simpa using hinstructions), hsigners]
  rfl

theorem blockhash_bind {α : Type} (next : Blockhash → Run α) :
    (submission.connection.getLatestBlockhash >>= next) submission.start =
      match submission.blockhashReply.outcome with
      | .ok blockhash => next blockhash submission.dated
      | .error failure => (.error (.failed failure), submission.dated) := by
  rw [Connection.getLatestBlockhash, Run.ask_bind_apply, ← blockhashReply]
  cases submission.blockhashReply.outcome <;> rfl

theorem send_bind {α : Type} (transaction : Transaction) (next : Signature → Run α) :
    (submission.connection.sendTransaction transaction >>= next) submission.dated =
      match (submission.sendReply transaction).outcome with
      | .ok signature => next signature (submission.sent transaction)
      | .error failure => (.error (.failed failure), submission.sent transaction) := by
  rw [Connection.sendTransaction, Run.ask_bind_apply, ← sendReply]
  cases (submission.sendReply transaction).outcome <;> rfl

/-- With instructions and signers, the submission goes on until one of its steps fails. -/
theorem run_of_ready (hinstructions : submission.instructions ≠ [])
    (hsigners : submission.signers ≠ []) :
    submission.run =
      match submission.blockhashReply.outcome with
      | .error failure => (.error (.failed failure), submission.dated)
      | .ok blockhash =>
          match submission.signing blockhash with
          | .error fault => (.error (.failed (.configuration (.unsigned fault))), submission.dated)
          | .ok transaction =>
              match (submission.sendReply transaction).outcome with
              | .error failure => (.error (.failed failure), submission.sent transaction)
              | .ok signature =>
                  submission.settle signature (submission.wait transaction signature).run := by
  rw [run, submit, if_neg (by simpa using hinstructions), if_neg (by simpa using hsigners),
    blockhash_bind]
  cases submission.blockhashReply.outcome with
  | error failure => rfl
  | ok blockhash =>
      simp only [Run.ofExcept_bind_apply]
      rw [← signing]
      cases submission.signing blockhash with
      | error fault => rfl
      | ok transaction =>
          have hsigned : (Except.ok transaction).mapError
              (fun fault => Failure.configuration (.unsigned fault)) = .ok transaction := rfl
          rw [hsigned]
          dsimp only
          rw [send_bind]
          cases (submission.sendReply transaction).outcome with
          | error failure => rfl
          | ok signature =>
              have hwait : awaitStatus submission.connection signature submission.options
                  (submission.sent transaction) =
                  (submission.wait transaction signature).run := rfl
              simp only [Run.bind_apply, hwait]
              rcases (submission.wait transaction signature).run with ⟨_ | _ | _, after⟩
              · rfl
              · rfl
              · rfl

theorem run_of_sends {transaction : Transaction} (hsends : submission.Sends transaction) :
    submission.run =
      match (submission.sendReply transaction).outcome with
      | .error failure => (.error (.failed failure), submission.sent transaction)
      | .ok signature =>
          submission.settle signature (submission.wait transaction signature).run := by
  rw [run_of_ready hsends.instructions hsends.signers, hsends.blockhash]
  simp only [hsends.signed]

theorem run_of_gets {transaction : Transaction} {signature : Signature}
    (hgets : submission.Gets transaction signature) :
    submission.run = submission.settle signature (submission.wait transaction signature).run := by
  rw [run_of_sends hgets.toSends, hgets.accepted]

variable (submission) in
/-- Every run goes one of the ways. -/
theorem course_run : submission.Course submission.run := by
  by_cases hinstructions : submission.instructions = []
  · rw [run_of_no_instructions hinstructions]
    exact .noInstructions hinstructions
  by_cases hsigners : submission.signers = []
  · rw [run_of_no_signers hinstructions hsigners]
    exact .noSigners hinstructions hsigners
  rw [run_of_ready hinstructions hsigners]
  cases hblockhash : submission.blockhashReply.outcome with
  | error failure => exact .undated hinstructions hsigners hblockhash
  | ok blockhash =>
      dsimp only
      cases hsigning : submission.signing blockhash with
      | error fault => exact .unsigned hinstructions hsigners hblockhash hsigning
      | ok transaction =>
          dsimp only
          have hsends := sends_of_signing hinstructions hsigners hblockhash hsigning
          cases hsend : (submission.sendReply transaction).outcome with
          | error failure => exact .unsent hsends hsend
          | ok signature => exact .waited ⟨hsends, hsend⟩

end Run

end Submission

end IssuanceClient
