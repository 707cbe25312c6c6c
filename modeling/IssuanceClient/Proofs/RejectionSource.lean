import IssuanceClient.Proofs.CallOrder
import IssuanceClient.Proofs.Outcome
import IssuanceClient.Proofs.SubmissionOutcome
import IssuanceClient.Proofs.TransactionLogs
import IssuanceClient.Rpc.Connection
import Mathlib.Control.Monad.Basic

/-!
Where a rejection comes from when a submission goes over requests to a node.  The node may reject
the transaction when it is sent, with the log lines of its trial run, or report a failed status
later, and only then is there a request for the log lines.  No other reply makes a rejection.
-/

open Except (bind_eq_ok_iff mapError_eq_ok_iff mapError_eq_error_iff eq_ok_of_toOption)

namespace IssuanceClient

namespace Message

theorem length_place (message : Message) (positions : List Nat) (signatures : List Signature) :
    (message.place positions signatures).length = message.header.signers := by
  have hfold (entries : List (Nat × Signature)) (placed : List Signature) :
      (entries.foldl (fun placed entry => placed.set entry.1 entry.2) placed).length =
        placed.length := by
    induction entries generalizing placed with
    | nil => rfl
    | cons entry entries ih => rw [List.foldl_cons, ih, List.length_set]
  rw [place, hfold, List.length_replicate]

/-- The payer at least signs. -/
theorem signers_compile_pos (instructions : List Instruction) (payer : Key)
    (blockhash : Blockhash) : 0 < (compile instructions payer blockhash).header.signers := by
  simp only [compile]
  omega

end Message

namespace Submission

variable {submission : Submission} {transaction : Transaction}

/-- A signed transaction has a first signature. -/
theorem Sends.exists_head? (hsends : submission.Sends transaction) :
    ∃ first, transaction.signatures.head? = some first := by
  have hmessage := message_of_signing hsends.signed
  obtain ⟨positions, signatures, _, _, _, htransaction⟩ := Message.sign_eq_ok_iff.mp hsends.signed
  have hlength : 0 < transaction.signatures.length := by
    rw [htransaction, Message.length_place]
    exact Message.signers_compile_pos _ _ _
  cases hsignatures : transaction.signatures with
  | nil => simp [hsignatures] at hlength
  | cons first rest => exact ⟨first, rfl⟩

/-- The requests that carry the calls of a submission, in order. -/
def Requests (submission : Submission) (own : Commitment) (requests : List Rpc.Request) : Prop :=
  ∃ made, submission.run.2.calls = submission.start.calls ++ made ∧
    made.map (fun entry => Rpc.Request.ofCall own entry.call) = requests

end Submission

namespace Rpc

/-- The request for the log lines of a transaction at some level. -/
def logsRequest (signature : Signature) (level : Commitment) : Request :=
  ⟨"getTransaction",
    [.string signature.text,
     .object [("encoding", .string "json"), ("commitment", .string level.name),
       ("maxSupportedTransactionVersion", .number 0)]]⟩

/-- The failure that a fault of the send request is reported as.  A trial run's message and log
lines come from the response, whether or not the node also tells in which fault the run ended; the
reason for which a transaction cannot be processed comes from itself, and every other fault is one
of the network. -/
inductive ReportedAs (first : Signature) : Fault → Failure → Prop
  | preflight (code : Int) (message : String) (simulation : Simulation)
      (ending : Option TransactionFault) :
      ReportedAs first (.response code message (some simulation) ending)
        (.rejected (some first) message (simulation.logs.getD []))
  | transaction (reason : TransactionFault) :
      ReportedAs first (.transaction reason) (.rejected (some first) reason.message [])
  | other {fault : Fault}
      (hpreflight : ∀ code message simulation ending,
        fault ≠ .response code message (some simulation) ending)
      (htransaction : ∀ reason, fault ≠ .transaction reason) :
      ReportedAs first fault (.network (.reported fault.message))

/-- Beside a trial run, only a fault of the transaction itself tells of one. -/
theorem transactionFault?_of_other {fault : Fault}
    (hpreflight : ∀ code message simulation ending,
      fault ≠ .response code message (some simulation) ending)
    {reason : TransactionFault} :
    fault.transactionFault? = some reason ↔ fault = .transaction reason := by
  cases fault with
  | response code message simulation ending =>
      cases simulation with
      | none => simp [Fault.transactionFault?]
      | some simulation => exact absurd rfl (hpreflight _ _ _ _)
  | _ => simp [Fault.transactionFault?]

theorem toRejection_eq_iff {first : Signature} {fault : Fault} {failure : Failure} :
    fault.toRejection (some first) = failure ↔ ReportedAs first fault failure := by
  constructor
  · rintro rfl
    unfold Fault.toRejection
    split
    · exact .preflight _ _ _ _
    · rename_i hpreflight
      split
      · rename_i reason hreason
        rw [(transactionFault?_of_other hpreflight).mp hreason]
        exact .transaction reason
      · rename_i hnone
        refine .other hpreflight fun reason hreason => ?_
        rw [(transactionFault?_of_other hpreflight).mpr hreason] at hnone
        cases hnone
  · intro hreported
    cases hreported with
    | preflight code message simulation ending => rfl
    | transaction reason => rfl
    | other hpreflight htransaction =>
        have hnone : fault.transactionFault? = none :=
          Option.eq_none_iff_forall_ne_some.mpr fun reason hreason =>
            htransaction reason ((transactionFault?_of_other hpreflight).mp hreason)
        unfold Fault.toRejection
        split
        · exact absurd rfl (hpreflight _ _ _ _)
        · rw [hnone]
          rfl

/-- A transaction is taken on under no other signature than its first one. -/
theorem eq_of_readSent {transaction : Transaction} {response : Response} {signature : Signature}
    (hsent : readSent transaction response = .ok signature) :
    signature = transaction.signatures.headD Signature.missing := by
  obtain ⟨json, -, hjson⟩ := bind_eq_ok_iff.mp hsent
  obtain ⟨text, -, htext⟩ := bind_eq_ok_iff.mp hjson
  obtain ⟨found, -, hfound⟩ := bind_eq_ok_iff.mp htext
  dsimp only at hfound
  split at hfound
  · rename_i hsame
    rw [← hsame]
    exact (Except.ok.inj hfound).symm
  · cases hfound

section Requests

variable (own : Commitment) (transport : Transport) (submission : Submission)

/-- What comes back for the request that sends a transaction. -/
def sendResponse (transaction : Transaction) : Response :=
  (transport.carry submission.dated.calls (.ofCall own (.send transaction))).response

/-- What comes back for a request for the status of a transaction. -/
def statusResponse (transaction : Transaction) (signature : Signature) (k : Nat) : Response :=
  (transport.carry ((submission.wait transaction signature).asked k).calls
    (.ofCall own (.status signature submission.options.commitment))).response

/-- What comes back for the request for the log lines, after a status has been heard. -/
def logsResponse (transaction : Transaction) (signature : Signature) (k : Nat) : Response :=
  (transport.carry ((submission.wait transaction signature).answered k).calls
    (.ofCall own (.logs signature submission.options.commitment))).response

/-- What a rejection says and shows, and the replies that it comes from: one to the send request, or
the status that was heard together with the one about the log lines. -/
inductive Rejects : Option Signature → String → List String → Prop
  | preflight {transaction : Transaction} (hsends : submission.Sends transaction)
      {first : Signature} (hfirst : transaction.signatures.head? = some first) {code : Int}
      {message : String} {simulation : Simulation} {ending : Option TransactionFault}
      (hsend : readSent transaction (sendResponse own transport submission transaction) =
        .error (.response code message (some simulation) ending)) :
      Rejects (some first) message (simulation.logs.getD [])
  | refused {transaction : Transaction} (hsends : submission.Sends transaction)
      {first : Signature} (hfirst : transaction.signatures.head? = some first)
      {reason : TransactionFault}
      (hsend : readSent transaction (sendResponse own transport submission transaction) =
        .error (.transaction reason)) :
      Rejects (some first) reason.message []
  | failed {transaction : Transaction} {signature : Signature}
      (hgets : submission.Gets transaction signature) {k : Nat}
      (hheard : (submission.wait transaction signature).Heard k) {reason : TransactionFault}
      (hstatus : readStatus submission.options.commitment
        (statusResponse own transport submission transaction signature k) =
          .ok (some (.error reason)))
      {lines : List String}
      (hlogs : BringsLogs (logsResponse own transport submission transaction signature k) lines) :
      Rejects (some signature) reason.message lines

end Requests

section Overall

variable {own : Commitment} {transport : Transport} {submission : Submission}
  {transaction : Transaction} {signature : Signature}

/-- A submission goes over requests. -/
theorem outcome_send (hconnection : submission.connection = connection own transport)
    (transaction : Transaction) :
    (submission.sendReply transaction).outcome =
      (readSent transaction (sendResponse own transport submission transaction)).mapError
        (Fault.toRejection transaction.signatures.head?) := by
  rw [Submission.sendReply, hconnection]
  rfl

theorem outcome_status (hconnection : submission.connection = connection own transport)
    (transaction : Transaction) (signature : Signature) (k : Nat) :
    ((submission.wait transaction signature).reply k).outcome =
      (readStatus submission.options.commitment
        (statusResponse own transport submission transaction signature k)).mapError
          Fault.toFailure := by
  rw [Wait.reply, Wait.replyOn]
  change (submission.connection.status _ _ _).outcome = _
  rw [hconnection]
  rfl

theorem logLines_eq (hconnection : submission.connection = connection own transport)
    (transaction : Transaction) (signature : Signature) (k : Nat) :
    submission.logLines signature ((submission.wait transaction signature).answered k) =
      keptLines (logsResponse own transport submission transaction signature k) := by
  have houtcome : (submission.logsReply signature
      ((submission.wait transaction signature).answered k)).outcome =
        (readLogs (logsResponse own transport submission transaction signature k)).mapError
          Fault.toFailure := by
    rw [Submission.logsReply, hconnection]
    rfl
  rw [Submission.logLines, houtcome, keptLines]
  cases readLogs (logsResponse own transport submission transaction signature k) <;> rfl

theorem run_of_unsent (hconnection : submission.connection = connection own transport)
    (hsends : submission.Sends transaction) {first : Signature}
    (hfirst : transaction.signatures.head? = some first) {fault : Fault}
    (hsend : readSent transaction (sendResponse own transport submission transaction) =
      .error fault) {failure : Failure} (hreported : ReportedAs first fault failure) :
    submission.run = (.error (.failed failure), submission.sent transaction) := by
  have houtcome : (submission.sendReply transaction).outcome = .error failure := by
    rw [outcome_send hconnection, hsend, hfirst, ← toRejection_eq_iff.mpr hreported]
    rfl
  rw [Submission.run_of_sends hsends, houtcome]

theorem run_of_failed (hconnection : submission.connection = connection own transport)
    (hgets : submission.Gets transaction signature) {k : Nat}
    (hheard : (submission.wait transaction signature).Heard k) {reason : TransactionFault}
    (hstatus : readStatus submission.options.commitment
      (statusResponse own transport submission transaction signature k) =
        .ok (some (.error reason)))
    {lines : List String}
    (hlogs : BringsLogs (logsResponse own transport submission transaction signature k) lines) :
    submission.run = (.error (.failed (.rejected (some signature) reason.message lines)),
      submission.explained signature ((submission.wait transaction signature).answered k)) := by
  have hreply : ((submission.wait transaction signature).reply k).outcome =
      .ok (some (.error reason)) := by
    rw [outcome_status hconnection, hstatus]
    rfl
  rw [Submission.run_of_gets hgets, hheard.run_of_status hreply, Submission.settle,
    logLines_eq hconnection, ← bringsLogs_iff.mp hlogs]

theorem Rejects.run_eq (hconnection : submission.connection = connection own transport)
    {found : Option Signature} {reason : String} {lines : List String}
    (hrejects : Rejects own transport submission found reason lines) :
    submission.run.1 = .error (.failed (.rejected found reason lines)) := by
  cases hrejects with
  | preflight hsends hfirst hsend =>
      rw [run_of_unsent hconnection hsends hfirst hsend (.preflight _ _ _ _)]
  | refused hsends hfirst hsend =>
      rw [run_of_unsent hconnection hsends hfirst hsend (.transaction _)]
  | failed hgets hheard hstatus hlogs =>
      rw [run_of_failed hconnection hgets hheard hstatus hlogs]

/-- Nothing else makes a rejection. -/
theorem rejects_of_run (hconnection : submission.connection = connection own transport)
    {found : Option Signature} {reason : String} {lines : List String}
    (hrun : submission.run.1 = .error (.failed (.rejected found reason lines))) :
    Rejects own transport submission found reason lines := by
  obtain ⟨result, houtcome⟩ := submission.exists_outcome
  rw [houtcome.run_eq] at hrun
  subst hrun
  cases houtcome with
  | undated _ _ hblockhash =>
      rw [Submission.blockhashReply, hconnection] at hblockhash
      obtain ⟨fault, -, hfault⟩ := mapError_eq_error_iff.mp hblockhash
      cases hfault
  | @unsent transaction hsends _ hsend =>
      rw [outcome_send hconnection] at hsend
      obtain ⟨fault, hfault, hreported⟩ := mapError_eq_error_iff.mp hsend
      obtain ⟨first, hfirst⟩ := hsends.exists_head?
      rw [hfirst, toRejection_eq_iff] at hreported
      cases hreported with
      | preflight code message simulation ending => exact .preflight hsends hfirst hfault
      | transaction reason => exact .refused hsends hfirst hfault
  | unanswered _ _ hreply =>
      rw [outcome_status hconnection] at hreply
      obtain ⟨fault, -, hfault⟩ := mapError_eq_error_iff.mp hreply
      cases hfault
  | rejected hgets hheard hreply =>
      rw [outcome_status hconnection] at hreply
      rw [logLines_eq hconnection]
      exact .failed hgets hheard (mapError_eq_ok_iff.mp hreply) (bringsLogs_iff.mpr rfl)

theorem requests_of_unsent (hrun : submission.run.2 = submission.sent transaction) :
    submission.Requests own [.ofCall own .latestBlockhash, .ofCall own (.send transaction)] := by
  refine ⟨submission.opening transaction, ?_, rfl⟩
  rw [hrun, Submission.calls_sent]

theorem requests_of_failed {k : Nat} (hrun : submission.run.2 = submission.explained signature
      ((submission.wait transaction signature).answered k)) :
    submission.Requests own
      ([.ofCall own .latestBlockhash, .ofCall own (.send transaction)] ++
        (List.replicate (k + 1)
            (.ofCall own (.status signature submission.options.commitment)) ++
          [logsRequest signature submission.options.commitment.forLogs])) := by
  have hstart : (submission.wait transaction signature).start.calls =
      submission.start.calls ++ submission.opening transaction := Submission.calls_sent transaction
  refine ⟨submission.log transaction signature (k + 1)
    (some ((submission.wait transaction signature).answered k).now), ?_, ?_⟩
  · rw [hrun, Submission.calls_explained, Wait.calls_answered, hstart, Submission.log,
      List.append_assoc, List.append_assoc]
    rfl
  · have hmap (entries : List TimedCall) :
        entries.map (fun entry => Request.ofCall own entry.call) =
          (entries.map TimedCall.call).map (Request.ofCall own) := by
      rw [List.map_map]
      rfl
    rw [Submission.log, List.map_append, List.map_append, hmap ((List.range _).map _),
      Submission.map_call_statuses, List.map_replicate]
    rfl

/-- The level at which log lines are asked for. -/
theorem forLogs_cases (commitment : Commitment) :
    commitment.forLogs ≠ .processed ∧ (commitment ≠ .processed → commitment.forLogs = commitment) ∧
      (commitment = .processed → commitment.forLogs = .confirmed) := by
  cases commitment <;> decide

theorem head?_of_gets (hconnection : submission.connection = connection own transport)
    (hgets : submission.Gets transaction signature) :
    transaction.signatures.head? = some signature := by
  obtain ⟨first, hfirst⟩ := hgets.toSends.exists_head?
  have haccepted := hgets.accepted
  rw [outcome_send hconnection, mapError_eq_ok_iff] at haccepted
  rw [hfirst, eq_of_readSent haccepted, List.headD_eq_head?_getD, hfirst, Option.getD_some]

/-- A submission over requests is rejected only for what the node replied to its send request or as
the status that was heard.  If the send request fails, no other request follows; if the status is a
failure, one more request asks for the log lines, at the level waited for unless that is
`processed`, and then at `confirmed`. -/
theorem rejection_from_reply (own : Commitment) (transport : Transport) (submission : Submission)
    (hconnection : submission.connection = connection own transport) :
    (∀ found reason lines,
      submission.run.1 = .error (.failed (.rejected found reason lines)) ↔
        Rejects own transport submission found reason lines) ∧
    (∀ transaction fault, submission.Sends transaction →
      readSent transaction (sendResponse own transport submission transaction) = .error fault →
      ∃ first failure, transaction.signatures.head? = some first ∧
        ReportedAs first fault failure ∧ submission.run.1 = .error (.failed failure) ∧
        submission.Requests own
          [.ofCall own .latestBlockhash, .ofCall own (.send transaction)]) ∧
    ∀ transaction signature k reason, submission.Gets transaction signature →
      (submission.wait transaction signature).Heard k →
      readStatus submission.options.commitment
        (statusResponse own transport submission transaction signature k) =
          .ok (some (.error reason)) →
      transaction.signatures.head? = some signature ∧
      (∃ lines,
        BringsLogs (logsResponse own transport submission transaction signature k) lines ∧
        submission.run.1 =
          .error (.failed (.rejected (some signature) reason.message lines))) ∧
      ∃ level : Commitment, level ≠ .processed ∧
        (submission.options.commitment ≠ .processed → level = submission.options.commitment) ∧
        (submission.options.commitment = .processed → level = .confirmed) ∧
        submission.Requests own
          ([.ofCall own .latestBlockhash, .ofCall own (.send transaction)] ++
            (List.replicate (k + 1)
                (.ofCall own (.status signature submission.options.commitment)) ++
              [logsRequest signature level])) := by
  refine ⟨?_, ?_, ?_⟩
  · intro found reason lines
    exact ⟨rejects_of_run hconnection, fun hrejects => hrejects.run_eq hconnection⟩
  · intro transaction fault hsends hsend
    obtain ⟨first, hfirst⟩ := hsends.exists_head?
    have hreported := toRejection_eq_iff.mp (rfl : fault.toRejection (some first) = _)
    have hrun := run_of_unsent hconnection hsends hfirst hsend hreported
    exact ⟨first, _, hfirst, hreported, by rw [hrun], requests_of_unsent (by rw [hrun])⟩
  · intro transaction signature k reason hgets hheard hstatus
    have hlogs := bringsLogs_iff.mpr
      (rfl : keptLines (logsResponse own transport submission transaction signature k) = _)
    have hrun := run_of_failed hconnection hgets hheard hstatus hlogs
    obtain ⟨hlevel, hsame, hraised⟩ := forLogs_cases submission.options.commitment
    exact ⟨head?_of_gets hconnection hgets, ⟨_, hlogs, by rw [hrun]⟩,
      _, hlevel, hsame, hraised, requests_of_failed (by rw [hrun])⟩

end Overall

section Rejected

/-- A value with the context in which a node gives it. -/
def inSlotOne (value : Json) : Json :=
  .object [("context", .object [("slot", .number 1)]), ("value", value)]

/-- The status of a transaction that failed in an instruction. -/
def failedStatus : Json :=
  .object [("slot", .number 1), ("confirmations", .null),
    ("status", .object [("Err", .string "AccountInUse")]), ("err", .string "AccountInUse"),
    ("confirmationStatus", .string "processed")]

/-- A transaction with the log lines of its execution. -/
def loggedTransaction : Json :=
  .object [("slot", .number 1), ("transaction", .array [.string "", .string "base64"]),
    ("meta", .object [("err", .string "AccountInUse"),
      ("status", .object [("Err", .string "AccountInUse")]), ("fee", .number 0),
      ("preBalances", .array []), ("postBalances", .array []),
      ("logMessages", .array [.string "first", .string "second"])])]

/-- The hash of the latest block. -/
def latestBlock : Json :=
  inSlotOne (.object [("blockhash", .string (Bytes.zero 32).text),
    ("lastValidBlockHeight", .number 1)])

/-- A node that answers at once, and to a send request with a given response. -/
def rejecting (send : Response) : Transport where
  carry _ request :=
    ⟨0,
      if request.method = "getLatestBlockhash" then .ok latestBlock
      else if request.method = "sendTransaction" then send
      else if request.method = "getSignatureStatuses" then .ok (inSlotOne (.array [failedStatus]))
      else .ok loggedTransaction⟩
  patience := 0

def rejectedSubmission (send : Response) : Submission where
  connection := connection .finalized (rejecting send)
  instructions := [⟨Bytes.zero 32, [], []⟩]
  payer := Submission.constantSigner.key
  signers := [Submission.constantSigner]
  options := { commitment := .processed }
  start := {}

theorem readBlockhash_latestBlock : readBlockhash (.ok latestBlock) = .ok (Bytes.zero 32) :=
  eq_ok_of_toOption (by decide +kernel)

theorem rejectedSubmission_sends (send : Response) :
    (rejectedSubmission send).Sends Submission.constantTransaction where
  instructions := List.cons_ne_nil _ _
  signers := List.cons_ne_nil _ _
  blockhash := by
    change (readBlockhash (.ok latestBlock)).mapError Fault.toFailure = _
    rw [readBlockhash_latestBlock]
    rfl
  signed := Submission.sign_constantTransaction

/-- A trial run that ends in a fault of the transaction. -/
def trialFault : Fault :=
  .response (-32002) "failed" (some ⟨some ["trial"]⟩) (some .accountInUse)

def sentSignature : Signature :=
  Submission.constantTransaction.signatures.headD Signature.missing

/-- The response to a send request with which a node takes the transaction on. -/
def taken : Response := .ok (.string sentSignature.text)

theorem readSent_taken : readSent Submission.constantTransaction taken = .ok sentSignature :=
  eq_ok_of_toOption (by decide +kernel)

theorem readStatus_failedStatus :
    readStatus .processed (.ok (inSlotOne (.array [failedStatus]))) =
      .ok (some (.error .accountInUse)) :=
  eq_ok_of_toOption (by decide +kernel)

theorem logs_loggedTransaction :
    TransactionRecord.logs .document loggedTransaction = .ok (some ["first", "second"]) :=
  eq_ok_of_toOption (by decide +kernel)

theorem rejectedSubmission_gets :
    (rejectedSubmission taken).Gets Submission.constantTransaction sentSignature where
  toSends := rejectedSubmission_sends taken
  accepted := by
    change (readSent Submission.constantTransaction taken).mapError _ = _
    rw [readSent_taken]
    rfl

theorem rejectedSubmission_heard :
    ((rejectedSubmission taken).wait Submission.constantTransaction sentSignature).Heard 0 := by
  apply (Wait.heard_iff_firstTold (by decide)).mpr
  refine ⟨by simp, ?_, ?_⟩
  · change (readStatus .processed (.ok (inSlotOne (.array [failedStatus])))).mapError
      Fault.toFailure ≠ _
    rw [readStatus_failedStatus]
    intro hsilent
    cases hsilent
  · rw [Wait.InTime]
    decide

/-- A transaction that fails its trial run, and one whose status is a failure: the first is rejected
in the words of the response and with the lines of the trial run, not for the fault in which that
ended, and for the other one a node is asked at `confirmed`, though the wait is for `processed`. -/
theorem rejection_from_reply_both :
    (rejectedSubmission (.error trialFault)).connection =
      connection .finalized (rejecting (.error trialFault)) ∧
    (rejectedSubmission (.error trialFault)).run.1 =
      .error (.failed (.rejected (some sentSignature) "failed" ["trial"])) ∧
    (rejectedSubmission taken).run.1 =
      .error (.failed (.rejected (some sentSignature) "Account in use" ["first", "second"])) ∧
    (rejectedSubmission taken).Requests .finalized
      [.ofCall .finalized .latestBlockhash,
        .ofCall .finalized (.send Submission.constantTransaction),
        .ofCall .finalized (.status sentSignature .processed),
        logsRequest sentSignature .confirmed] := by
  obtain ⟨htrial, -, -⟩ := rejection_from_reply .finalized (rejecting (.error trialFault))
    (rejectedSubmission (.error trialFault)) rfl
  obtain ⟨htaken, -, hfailed⟩ := rejection_from_reply .finalized (rejecting taken)
    (rejectedSubmission taken) rfl
  have hsend : readSent Submission.constantTransaction
      (sendResponse .finalized (rejecting (.error trialFault))
        (rejectedSubmission (.error trialFault)) Submission.constantTransaction) =
      .error trialFault := rfl
  have hpreflight := Rejects.preflight (rejectedSubmission_sends (.error trialFault))
    (rfl : _ = some sentSignature) hsend
  have hstatus : readStatus .processed
      (statusResponse .finalized (rejecting taken) (rejectedSubmission taken)
        Submission.constantTransaction sentSignature 0) = .ok (some (.error .accountInUse)) :=
    readStatus_failedStatus
  have hlogs : BringsLogs (.ok loggedTransaction) ["first", "second"] :=
    .messages logs_loggedTransaction rfl rfl
  obtain ⟨-, -, level, -, -, hlevel, hrequests⟩ := hfailed _ _ _ _ rejectedSubmission_gets
    rejectedSubmission_heard hstatus
  rw [hlevel rfl] at hrequests
  exact ⟨rfl, (htrial _ _ _).mpr hpreflight,
    (htaken _ _ _).mpr (.failed rejectedSubmission_gets rejectedSubmission_heard hstatus hlogs),
    hrequests⟩

end Rejected

end Rpc

end IssuanceClient
