import IssuanceClient.Proofs.Submission
import Mathlib.Logic.ExistsUnique

/-!
The calls of a submission.  They form one of five words, whatever the connection answers: nothing, a
blockhash call, then a send, then status calls, then a log call.  What decides between the words is
read off the log, where the reply to a call is the one that the connection gives in the light of the
calls before it.
-/

namespace IssuanceClient

def Call.isSend : Call → Bool
  | send _ => true
  | _ => false

/-- The words that the calls of one submission can form.  A submission that waits makes at least one
status call, and `more` beyond it. -/
inductive CallWord
  | silent
  | dated
  | sent (transaction : Transaction)
  | waited (transaction : Transaction) (signature : Signature) (more : Nat)
  | explained (transaction : Transaction) (signature : Signature) (more : Nat)
deriving DecidableEq, Repr

/-- The calls of a word, when a commitment is waited for. -/
def CallWord.calls (commitment : Commitment) : CallWord → List Call
  | silent => []
  | dated => [.latestBlockhash]
  | sent transaction => [.latestBlockhash, .send transaction]
  | waited transaction signature more =>
      .latestBlockhash :: .send transaction ::
        List.replicate (more + 1) (.status signature commitment)
  | explained transaction signature more =>
      .latestBlockhash :: .send transaction ::
        (List.replicate (more + 1) (.status signature commitment) ++ [.logs signature commitment])

theorem statuses_ne_append_logs (commitment : Commitment) (left right : Signature) (m n : Nat) :
    List.replicate m (Call.status left commitment) ≠
      List.replicate n (Call.status right commitment) ++ [.logs right commitment] := by
  intro heq
  have hmem : Call.logs right commitment ∈ List.replicate m (Call.status left commitment) := by
    rw [heq]
    simp
  simp at hmem

theorem CallWord.calls_injective (commitment : Commitment) :
    Function.Injective (CallWord.calls commitment) := by
  intro left right heq
  cases left with
  | silent => cases right <;> simp [calls] at heq ⊢
  | dated => cases right <;> simp [calls] at heq ⊢
  | sent transaction =>
      cases right <;> simp [calls] at heq ⊢
      exact heq
  | waited transaction signature more =>
      cases right with
      | waited transaction' signature' more' =>
          simp only [calls, List.cons.injEq, List.replicate_inj, Call.send.injEq] at heq
          obtain ⟨-, rfl, hmore, hsignature⟩ := heq
          simp_all
      | explained transaction' signature' more' =>
          simp only [calls, List.cons.injEq] at heq
          exact absurd heq.2.2 (statuses_ne_append_logs _ _ _ _ _)
      | _ => simp [calls] at heq
  | explained transaction signature more =>
      cases right with
      | waited transaction' signature' more' =>
          simp only [calls, List.cons.injEq] at heq
          exact absurd heq.2.2.symm (statuses_ne_append_logs _ _ _ _ _)
      | explained transaction' signature' more' =>
          simp [calls, List.replicate_inj] at heq
          obtain ⟨rfl, rfl, rfl⟩ := heq
          rfl
      | _ => simp [calls] at heq

theorem CallWord.countP_isSend_calls_le (word : CallWord) (commitment : Commitment) :
    (word.calls commitment).countP Call.isSend ≤ 1 := by
  cases word <;>
    simp [calls, List.countP_cons, List.countP_replicate, Call.isSend]

/-- A log has a call at a position, made at some time. -/
def Logged (log : List TimedCall) (position time : Nat) (call : Call) : Prop :=
  log[position]? = some ⟨time, call⟩

namespace Submission

variable (submission : Submission) (made : List TimedCall)

/-- What has been called before the call at a position of the submission's log. -/
def before (position : Nat) : List TimedCall := submission.start.calls ++ made.take position

def sendAt (position : Nat) (transaction : Transaction) : Reply Signature :=
  submission.connection.send (submission.before made position) transaction

def statusAt (position : Nat) (signature : Signature) (commitment : Commitment) :
    Reply (Option Status) :=
  submission.connection.status (submission.before made position) signature commitment

/-- The log shows that a send got a signature, and when. -/
def Accepted (signature : Signature) (time : Nat) : Prop :=
  ∃ position asked transaction, Logged made position asked (.send transaction) ∧
    (submission.sendAt made position transaction).outcome = .ok signature ∧
    time = asked + (submission.sendAt made position transaction).delay

/-- The calls of a submission are in order. -/
structure Orderly : Prop where
  /-- They form one word, and only one. -/
  word : ∃! word : CallWord,
    made.map TimedCall.call = word.calls submission.options.commitment
  sendsOnce : made.countP (·.call.isSend) ≤ 1
  /-- A send comes right after a blockhash call that was answered, and what is sent has been signed
  with that blockhash. -/
  sendsSigned : ∀ position time transaction, Logged made position time (.send transaction) →
    (made.take position).map TimedCall.call = [.latestBlockhash] ∧
    ∃ blockhash,
      (submission.connection.latestBlockhash submission.start.calls).outcome = .ok blockhash ∧
      (Message.compile submission.instructions submission.payer blockhash).sign
        submission.signers = .ok transaction ∧
      transaction.message.blockhash = blockhash ∧
      Signature.missing ∉ transaction.signatures
  /-- Status and log calls ask for the signature that the send got. -/
  asksForSent : ∀ position time signature commitment,
    Logged made position time (.status signature commitment) ∨
      Logged made position time (.logs signature commitment) →
    commitment = submission.options.commitment ∧ ∃ sent, submission.Accepted made signature sent
  /-- There are status calls if and only if the send got a signature. -/
  asksIfSent :
    (∃ position time signature commitment,
      Logged made position time (.status signature commitment)) ↔
    ∃ signature sent, submission.Accepted made signature sent
  /-- Every status call that another one follows was answered with nothing known. -/
  asksOnIfUnknown : ∀ position later time time' signature signature' commitment commitment',
    position < later → Logged made position time (.status signature commitment) →
    Logged made later time' (.status signature' commitment') →
    (submission.statusAt made position signature commitment).outcome = .ok none
  /-- There is a log call if and only if the last status call was answered with a failed transaction
  before the wait was over. -/
  explainsIfFailed :
    (∃ position time signature commitment,
      Logged made position time (.logs signature commitment)) ↔
    ∃ position time signature commitment fault sent,
      Logged made position time (.status signature commitment) ∧
      (∀ later time' signature' commitment', position < later →
        ¬ Logged made later time' (.status signature' commitment')) ∧
      (submission.statusAt made position signature commitment).outcome =
        .ok (some (.error fault)) ∧
      submission.Accepted made signature sent ∧
      time + (submission.statusAt made position signature commitment).delay ≤
        sent + submission.options.timeout
  /-- Nothing follows a log call. -/
  explainsLast : ∀ position time signature commitment,
    Logged made position time (.logs signature commitment) → position + 1 = made.length

section Logs

variable {submission} {made}

theorem existsUnique_word (word : CallWord)
    (hmade : made.map TimedCall.call = word.calls submission.options.commitment) :
    ∃! word : CallWord, made.map TimedCall.call = word.calls submission.options.commitment :=
  ⟨word, hmade, fun _ hother => CallWord.calls_injective _ (hother.symm.trans hmade)⟩

theorem orderly_nil : submission.Orderly [] where
  word := existsUnique_word .silent rfl
  sendsOnce := by simp
  sendsSigned := by simp [Logged]
  asksForSent := by simp [Logged]
  asksIfSent := by simp [Accepted, Logged]
  asksOnIfUnknown := by simp [Logged]
  explainsIfFailed := by simp [Logged]
  explainsLast := by simp [Logged]

theorem orderly_dated (time : Nat) : submission.Orderly [⟨time, .latestBlockhash⟩] where
  word := existsUnique_word .dated rfl
  sendsOnce := by simp [Call.isSend]
  sendsSigned := by simp [Logged, List.getElem?_singleton]
  asksForSent := by simp [Logged, List.getElem?_singleton]
  asksIfSent := by simp [Accepted, Logged, List.getElem?_singleton]
  asksOnIfUnknown := by simp [Logged, List.getElem?_singleton]
  explainsIfFailed := by simp [Logged, List.getElem?_singleton]
  explainsLast := by simp [Logged, List.getElem?_singleton]

/-- A log that goes as far as its send. -/
def opening (submission : Submission) (transaction : Transaction) : List TimedCall :=
  [⟨submission.start.now, .latestBlockhash⟩, ⟨submission.dated.now, .send transaction⟩]

/-- A log that goes on with some status calls and, perhaps, a log call at some time. -/
def log (submission : Submission) (transaction : Transaction) (signature : Signature)
    (count : Nat) (explained : Option Nat) : List TimedCall :=
  submission.opening transaction ++
    ((List.range count).map (submission.wait transaction signature).entry ++
      (explained.map fun time =>
        ⟨time, .logs signature submission.options.commitment⟩).toList)

theorem calls_dated :
    submission.dated.calls =
      submission.start.calls ++ [⟨submission.start.now, .latestBlockhash⟩] := by
  rw [dated, Timeline.calls_receive]
  rfl

theorem calls_sent (transaction : Transaction) :
    (submission.sent transaction).calls =
      submission.start.calls ++ submission.opening transaction := by
  rw [sent, Timeline.calls_receive, Timeline.record, calls_dated, List.append_assoc]
  rfl

variable {transaction : Transaction} {signature : Signature} {count : Nat}
  {explained : Option Nat}

theorem sendAt_log :
    submission.sendAt (submission.log transaction signature count explained) 1 transaction =
      submission.sendReply transaction := by
  rw [sendAt, before, sendReply, calls_dated]
  rfl

theorem statusAt_log {k : Nat} (hk : k < count) :
    submission.statusAt (submission.log transaction signature count explained) (k + 2) signature
        submission.options.commitment =
      (submission.wait transaction signature).reply k := by
  have htake : (submission.log transaction signature count explained).take (k + 2) =
      submission.opening transaction ++
        (List.range k).map (submission.wait transaction signature).entry := by
    simp [log, opening, ← List.map_take, List.take_range, Nat.min_eq_left (Nat.le_of_lt hk),
      List.take_append, Nat.sub_eq_zero_of_le (Nat.le_of_lt hk)]
  rw [statusAt, before, htake, ← List.append_assoc, ← calls_sent, Wait.reply, Wait.replyOn,
    Wait.calls_asked]
  rfl

/-- What a log that goes on after its send has at each position. -/
theorem logged_log_iff {position time : Nat} {call : Call} :
    Logged (submission.log transaction signature count explained) position time call ↔
      (position = 0 ∧ time = submission.start.now ∧ call = .latestBlockhash) ∨
      (position = 1 ∧ time = submission.dated.now ∧ call = .send transaction) ∨
      (∃ k < count, position = k + 2 ∧
        time = ((submission.wait transaction signature).asked k).now ∧
        call = .status signature submission.options.commitment) ∨
      (position = count + 2 ∧ explained = some time ∧
        call = .logs signature submission.options.commitment) := by
  rw [Logged, log, opening]
  -- The first two positions are the opening; the rest are split at the end of the status calls.
  rcases position with _ | _ | position
  · simp [eq_comm]
  · simp [eq_comm]
  · simp only [List.cons_append, List.nil_append, List.getElem?_cons_succ]
    rcases Nat.lt_or_ge position count with hlt | hge
    · rw [List.getElem?_append_left (by simpa using hlt)]
      simp only [List.getElem?_map, List.getElem?_range hlt, Option.map_some, Wait.entry,
        Wait.question, wait, Option.some.injEq, TimedCall.mk.injEq]
      constructor
      · rintro ⟨rfl, rfl⟩
        exact Or.inr (Or.inr (Or.inl ⟨position, hlt, rfl, rfl, rfl⟩))
      · rintro (h | h | ⟨k, -, hk, rfl, rfl⟩ | h)
        · omega
        · omega
        · obtain rfl : position = k := by omega
          exact ⟨rfl, rfl⟩
        · omega
    · rw [List.getElem?_append_right (by simpa using hge)]
      simp only [List.length_map, List.length_range]
      constructor
      · intro htail
        have hmem := List.mem_of_getElem? htail
        have hlast := (List.getElem?_eq_some_iff.mp htail).1
        cases explained with
        | none => simp at hmem
        | some at' =>
            simp at hmem hlast
            exact Or.inr (Or.inr (Or.inr ⟨by omega, by rw [hmem.1], hmem.2⟩))
      · rintro (h | h | ⟨k, hk, h, -⟩ | ⟨hposition, rfl, rfl⟩)
        · omega
        · omega
        · omega
        · obtain rfl : position = count := by omega
          simp

theorem logged_send_iff {position time : Nat} {transaction' : Transaction} :
    Logged (submission.log transaction signature count explained) position time
        (.send transaction') ↔
      position = 1 ∧ time = submission.dated.now ∧ transaction' = transaction := by
  simp [logged_log_iff]

theorem logged_status_iff {position time : Nat} {signature' : Signature}
    {commitment : Commitment} :
    Logged (submission.log transaction signature count explained) position time
        (.status signature' commitment) ↔
      ∃ k < count, position = k + 2 ∧
        time = ((submission.wait transaction signature).asked k).now ∧
        signature' = signature ∧ commitment = submission.options.commitment := by
  simp [logged_log_iff]

theorem logged_logs_iff {position time : Nat} {signature' : Signature}
    {commitment : Commitment} :
    Logged (submission.log transaction signature count explained) position time
        (.logs signature' commitment) ↔
      position = count + 2 ∧ explained = some time ∧
        signature' = signature ∧ commitment = submission.options.commitment := by
  simp [logged_log_iff]

theorem accepted_log_iff {signature' : Signature} {time : Nat} :
    submission.Accepted (submission.log transaction signature count explained) signature' time ↔
      (submission.sendReply transaction).outcome = .ok signature' ∧
        time = (submission.sent transaction).now := by
  have hnow : (submission.sent transaction).now =
      submission.dated.now + (submission.sendReply transaction).delay := by
    rw [sent, Timeline.now_receive]
    rfl
  constructor
  · rintro ⟨position, asked, transaction', hsend, hok, rfl⟩
    obtain ⟨rfl, rfl, rfl⟩ := logged_send_iff.mp hsend
    rw [sendAt_log] at hok ⊢
    exact ⟨hok, hnow.symm⟩
  · rintro ⟨hok, rfl⟩
    refine ⟨1, submission.dated.now, transaction, logged_send_iff.mpr ⟨rfl, rfl, rfl⟩, ?_⟩
    rw [sendAt_log]
    exact ⟨hok, hnow⟩

theorem map_call_statuses :
    ((List.range count).map (submission.wait transaction signature).entry).map TimedCall.call =
      List.replicate count (.status signature submission.options.commitment) := by
  rw [List.map_map]
  change (List.range count).map (fun _ => Call.status signature submission.options.commitment) = _
  rw [List.map_const', List.length_range]

theorem exists_word_log (hexplained : explained.isSome → 0 < count) :
    ∃ word : CallWord,
      (submission.log transaction signature count explained).map TimedCall.call =
        word.calls submission.options.commitment := by
  rw [log, List.map_append, List.map_append, map_call_statuses]
  cases count with
  | zero =>
      cases explained with
      | none => exact ⟨.sent transaction, rfl⟩
      | some time => exact absurd (hexplained rfl) (by decide)
  | succ more =>
      cases explained with
      | none => exact ⟨.waited transaction signature more, by simp [opening, CallWord.calls]⟩
      | some time => exact ⟨.explained transaction signature more, rfl⟩

theorem explainsIfFailed_log
    (haccepted : ∀ signature', (submission.sendReply transaction).outcome = .ok signature' ↔
      0 < count ∧ signature' = signature)
    (hexplained : explained.isSome ↔ ∃ k fault, k + 1 = count ∧
      (submission.wait transaction signature).InTime k ∧
      ((submission.wait transaction signature).reply k).outcome = .ok (some (.error fault))) :
    let made := submission.log transaction signature count explained
    (∃ position time signature commitment,
      Logged made position time (.logs signature commitment)) ↔
    ∃ position time signature commitment fault sent,
      Logged made position time (.status signature commitment) ∧
      (∀ later time' signature' commitment', position < later →
        ¬ Logged made later time' (.status signature' commitment')) ∧
      (submission.statusAt made position signature commitment).outcome =
        .ok (some (.error fault)) ∧
      submission.Accepted made signature sent ∧
      time + (submission.statusAt made position signature commitment).delay ≤
        sent + submission.options.timeout := by
  constructor
  · rintro ⟨position, time, signature', commitment, hlogs⟩
    obtain ⟨-, hsome, -⟩ := logged_logs_iff.mp hlogs
    obtain ⟨k, fault, rfl, hintime, houtcome⟩ := hexplained.mp (by rw [hsome]; rfl)
    refine ⟨k + 2, _, signature, _, fault, (submission.sent transaction).now,
      logged_status_iff.mpr ⟨k, by omega, rfl, rfl, rfl, rfl⟩, ?_, ?_, ?_, ?_⟩
    · intro later time' signature'' commitment' hlater hnext
      obtain ⟨k', hk', rfl, -⟩ := logged_status_iff.mp hnext
      omega
    · rw [statusAt_log (by omega)]
      exact houtcome
    · exact accepted_log_iff.mpr ⟨(haccepted _).mpr ⟨by omega, rfl⟩, rfl⟩
    · rw [statusAt_log (by omega), ← Wait.now_answered]
      exact hintime
  · rintro ⟨position, time, signature', commitment, fault, sent, hstatus, hlast, houtcome,
      hsent, hintime⟩
    obtain ⟨k, hk, rfl, rfl, rfl, rfl⟩ := logged_status_iff.mp hstatus
    have hcount : k + 1 = count := by
      rcases Nat.lt_or_ge (k + 1) count with hlt | hge
      · exact absurd (logged_status_iff.mpr ⟨k + 1, hlt, rfl, rfl, rfl, rfl⟩)
          (hlast (k + 3) _ _ _ (by omega))
      · omega
    rw [statusAt_log hk] at houtcome hintime
    obtain ⟨-, rfl⟩ := accepted_log_iff.mp hsent
    rw [← Wait.now_answered] at hintime
    obtain ⟨time, htime⟩ := Option.isSome_iff_exists.mp
      (hexplained.mpr ⟨k, fault, hcount, hintime, houtcome⟩)
    exact ⟨_, _, _, _, logged_logs_iff.mpr ⟨rfl, htime, rfl, rfl⟩⟩

/-- A log is in order if its wait is: it has status calls when the send got a signature, of which
all but the last one told nothing, and a log call when the last one told of a failure in time. -/
theorem orderly_log (hsends : submission.Sends transaction)
    (haccepted : ∀ signature', (submission.sendReply transaction).outcome = .ok signature' ↔
      0 < count ∧ signature' = signature)
    (hunknown : ∀ k, k + 1 < count →
      ((submission.wait transaction signature).reply k).outcome = .ok none)
    (hexplained : explained.isSome ↔ ∃ k fault, k + 1 = count ∧
      (submission.wait transaction signature).InTime k ∧
      ((submission.wait transaction signature).reply k).outcome = .ok (some (.error fault))) :
    submission.Orderly (submission.log transaction signature count explained) := by
  have hpos : explained.isSome → 0 < count := by
    intro hsome
    obtain ⟨k, fault, hk, -⟩ := hexplained.mp hsome
    omega
  obtain ⟨word, hword⟩ := @exists_word_log submission transaction signature count explained hpos
  constructor
  case word => exact existsUnique_word word hword
  case sendsOnce =>
    have hcount := word.countP_isSend_calls_le submission.options.commitment
    rw [← hword, List.countP_map] at hcount
    exact hcount
  case sendsSigned =>
    intro position time transaction' hsend
    obtain ⟨rfl, rfl, rfl⟩ := logged_send_iff.mp hsend
    exact ⟨rfl, transaction'.message.blockhash, hsends.blockhash, hsends.signed, rfl,
      missing_notMem_of_signing hsends.signed⟩
  case asksForSent =>
    intro position time signature' commitment hasks
    have hasked : 0 < count ∧ signature' = signature ∧
        commitment = submission.options.commitment := by
      rcases hasks with hstatus | hlogs
      · obtain ⟨k, hk, -, -, hsignature, hcommitment⟩ := logged_status_iff.mp hstatus
        exact ⟨by omega, hsignature, hcommitment⟩
      · obtain ⟨-, hsome, hsignature, hcommitment⟩ := logged_logs_iff.mp hlogs
        exact ⟨hpos (by rw [hsome]; rfl), hsignature, hcommitment⟩
    obtain ⟨hcount, rfl, rfl⟩ := hasked
    exact ⟨rfl, _, accepted_log_iff.mpr ⟨(haccepted _).mpr ⟨hcount, rfl⟩, rfl⟩⟩
  case asksIfSent =>
    constructor
    · rintro ⟨position, time, signature', commitment, hstatus⟩
      obtain ⟨k, hk, -⟩ := logged_status_iff.mp hstatus
      exact ⟨signature, _, accepted_log_iff.mpr ⟨(haccepted _).mpr ⟨by omega, rfl⟩, rfl⟩⟩
    · rintro ⟨signature', sent, hsent⟩
      obtain ⟨hcount, -⟩ := (haccepted _).mp (accepted_log_iff.mp hsent).1
      exact ⟨_, _, _, _, logged_status_iff.mpr ⟨0, hcount, rfl, rfl, rfl, rfl⟩⟩
  case asksOnIfUnknown =>
    intro position later time time' signature' signature'' commitment commitment' hlater hstatus
      hnext
    obtain ⟨k, hk, rfl, -, rfl, rfl⟩ := logged_status_iff.mp hstatus
    obtain ⟨k', hk', rfl, -⟩ := logged_status_iff.mp hnext
    rw [statusAt_log hk]
    exact hunknown k (by omega)
  case explainsIfFailed => exact explainsIfFailed_log haccepted hexplained
  case explainsLast =>
    intro position time signature' commitment hlogs
    obtain ⟨rfl, rfl, -⟩ := logged_logs_iff.mp hlogs
    simp [log, opening]

theorem orderly_sent {transaction : Transaction} (hsends : submission.Sends transaction)
    {failure : Failure} (hsend : (submission.sendReply transaction).outcome = .error failure) :
    submission.Orderly (submission.log transaction Signature.missing 0 none) := by
  apply orderly_log hsends
  · simp [hsend]
  · simp
  · simp

theorem calls_explained (signature : Signature) (timeline : Timeline) :
    (submission.explained signature timeline).calls =
      timeline.calls ++ [⟨timeline.now, .logs signature submission.options.commitment⟩] := by
  rw [Submission.explained, Timeline.calls_receive]
  rfl

theorem exists_orderly_of_gets {transaction : Transaction} {signature : Signature}
    (hgets : submission.Gets transaction signature) :
    ∃ made, submission.run.2.calls = submission.start.calls ++ made ∧ submission.Orderly made := by
  obtain ⟨n, hunknown, hcalls, hfound⟩ :=
    (submission.wait transaction signature).exists_last_question
  have haccepted (signature' : Signature) :
      (submission.sendReply transaction).outcome = .ok signature' ↔
        0 < n + 1 ∧ signature' = signature := by
    simp [hgets.accepted, eq_comm]
  have horderly (explained : Option Nat) (hexplained : explained.isSome ↔ ∃ fault,
      (submission.wait transaction signature).InTime n ∧
      ((submission.wait transaction signature).reply n).outcome = .ok (some (.error fault))) :
      submission.Orderly (submission.log transaction signature (n + 1) explained) := by
    refine orderly_log hgets.toSends haccepted (fun k hk => hunknown k (by omega)) ?_
    rw [hexplained]
    constructor
    · rintro ⟨fault, hfault⟩
      exact ⟨n, fault, rfl, hfault⟩
    · rintro ⟨k, fault, hk, hfault⟩
      obtain rfl : k = n := by omega
      exact ⟨fault, hfault⟩
  change _ = (submission.sent transaction).calls ++ _ at hcalls
  rw [calls_sent] at hcalls
  rw [run_of_gets hgets]
  generalize (submission.wait transaction signature).run = run at hcalls hfound ⊢
  obtain ⟨result, after⟩ := run
  dsimp only at hcalls
  match result with
  | .ok (.error fault) =>
      refine ⟨_, ?_, horderly (some after.now) ?_⟩
      · rw [settle, calls_explained, hcalls]
        simp [log]
      · simp only [Option.isSome_some, true_iff]
        exact ⟨fault, (hfound _).mp rfl⟩
  | .ok (.ok ()) =>
      refine ⟨_, ?_, horderly none ?_⟩
      · rw [settle, hcalls]
        simp [log]
      · simp [← hfound]
  | .error stop =>
      refine ⟨_, ?_, horderly none ?_⟩
      · rw [settle, hcalls]
        simp [log]
      · simp [← hfound]

end Logs

/-- Whatever the connection answers and whenever, the calls of a submission are in order. -/
theorem calls_orderly (submission : Submission) :
    ∃ made, submission.run.2.calls = submission.start.calls ++ made ∧ submission.Orderly made := by
  have hcourse := submission.course_run
  generalize hrun : submission.run = run at hcourse ⊢
  cases hcourse with
  | noInstructions => exact ⟨[], (List.append_nil _).symm, orderly_nil⟩
  | noSigners => exact ⟨[], (List.append_nil _).symm, orderly_nil⟩
  | undated => exact ⟨_, calls_dated, orderly_dated _⟩
  | unsigned => exact ⟨_, calls_dated, orderly_dated _⟩
  | unsent hsends hsend => exact ⟨_, calls_sent _, orderly_sent hsends hsend⟩
  | waited hgets =>
      rw [← hrun]
      exact exists_orderly_of_gets hgets

end Submission

end IssuanceClient
