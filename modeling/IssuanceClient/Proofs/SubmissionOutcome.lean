import IssuanceClient.Proofs.Submission

/-!
What a submission comes to.  Of the replies to a wait only the first one that tells something
counts, and only if it is heard: it must arrive in time, and a client that makes no pauses must not
have given way before.  `Outcome` has one constructor for each kind of reply that decides.
-/

namespace IssuanceClient

namespace Wait

variable {wait : Wait}

/-- A reply in time that tells something, after replies that told nothing. -/
structure FirstTold (wait : Wait) (k : Nat) : Prop where
  unknown : ∀ j < k, (wait.reply j).outcome = .ok none
  told : (wait.reply k).outcome ≠ .ok none
  inTime : wait.InTime k

/-- The first reply that tells something, to a client that is still there to hear it. -/
structure Heard (wait : Wait) (k : Nat) : Prop extends wait.FirstTold k where
  stays : ∀ j < k, ¬ wait.GivesWay j
  watched : wait.Watched k

/-- A client that makes pauses hears the first reply that tells something. -/
theorem heard_iff_firstTold (hinterval : wait.options.interval ≠ 0) {k : Nat} :
    wait.Heard k ↔ wait.FirstTold k :=
  ⟨Heard.toFirstTold, fun htold =>
    ⟨htold, fun _ _ hgives => hinterval hgives.1, fun hzero => absurd hzero hinterval⟩⟩

theorem Heard.endsAt {k : Nat} (hheard : wait.Heard k) : wait.EndsAt k := by
  refine ⟨fun j hj => ⟨hheard.unknown j hj, ?_, hheard.stays j hj⟩,
    fun hcontinues => hheard.told hcontinues.unknown⟩
  have hasked : (wait.asked (j + 1)).now ≤ (wait.asked k).now := wait.now_asked_mono hj
  have hanswered := hheard.inTime
  rw [InTime, now_answered] at hanswered
  omega

theorem ending_of_inTime {n : Nat} (hintime : wait.InTime n) :
    wait.ending n =
      match (wait.reply n).outcome with
      | .error failure => (.error (.failed failure), wait.answered n)
      | .ok (some status) => (.ok status, wait.answered n)
      | .ok none => expire wait.signature wait.options wait.deadline (wait.answered n) :=
  if_neg (Nat.not_lt.mpr hintime)

theorem Heard.run {k : Nat} (hheard : wait.Heard k) :
    wait.run =
      match (wait.reply k).outcome with
      | .error failure => (.error (.failed failure), wait.answered k)
      | .ok (some status) => (.ok status, wait.answered k)
      | .ok none => expire wait.signature wait.options wait.deadline (wait.answered k) := by
  have hlimit : k < wait.limit := hheard.endsAt.lt_limit_iff.mpr hheard.watched
  rw [run_of_endsAt hlimit hheard.endsAt, ending_of_inTime hheard.inTime]

theorem Heard.run_of_failure {k : Nat} (hheard : wait.Heard k) {failure : Failure}
    (hreply : (wait.reply k).outcome = .error failure) :
    wait.run = (.error (.failed failure), wait.answered k) := by
  rw [hheard.run, hreply]

theorem Heard.run_of_status {k : Nat} (hheard : wait.Heard k) {status : Status}
    (hreply : (wait.reply k).outcome = .ok (some status)) :
    wait.run = (.ok status, wait.answered k) := by
  rw [hheard.run, hreply]

theorem Unsettled.run (hunsettled : wait.Unsettled) :
    wait.run = (.error .undecided, wait.asked wait.limit) :=
  run_of_continues (unsettled_iff.mp hunsettled)

/-- A wait in which nothing is heard ends at its deadline, if anybody sees its end. -/
theorem run_of_unheard (hunheard : ∀ k, ¬ wait.Heard k) (hsettled : ¬ wait.Unsettled) :
    wait.run.1 = .error (.failed
      (.network (.unconfirmed wait.signature wait.options.commitment wait.options.timeout))) := by
  rcases wait.exists_endsAt_or_continues wait.limit with ⟨n, hn, hends⟩ | hcontinues
  · rw [run_of_endsAt hn hends]
    by_cases hintime : wait.InTime n
    · have hnone : (wait.reply n).outcome = .ok none := Classical.byContradiction fun htold =>
        hunheard n ⟨⟨fun j hj => (hends.earlier j hj).unknown, htold, hintime⟩,
          fun j hj => (hends.earlier j hj).stays, hends.lt_limit_iff.mp hn⟩
      rw [ending_of_inTime hintime, hnone]
      rfl
    · rw [ending, if_pos (Nat.lt_of_not_le hintime)]
      rfl
  · exact absurd (unsettled_iff.mpr hcontinues) hsettled

theorem start_add_le_now_asked (hdelay : ∀ k, 0 < (wait.reply k).delay) (k : Nat) :
    wait.start.now + k ≤ (wait.asked k).now := by
  induction k with
  | zero => exact Nat.le_refl _
  | succ k ih =>
      have htime := hdelay k
      rw [now_asked_succ, now_answered]
      omega

/-- A wait is settled by its pauses, or by the time that its replies take. -/
theorem not_unsettled
    (hpasses : wait.options.interval ≠ 0 ∨
      (∀ k, 0 < (wait.reply k).delay) ∧ wait.options.timeout ≤ wait.connection.patience) :
    ¬ wait.Unsettled := by
  intro hunsettled
  rcases hpasses with hinterval | ⟨hdelay, hpatience⟩
  · exact hinterval hunsettled.interval
  · have hturn : 0 < sleepsPerTurn := by decide
    have hnext := (hunsettled.continues wait.connection.patience (by omega)).inTime
    have hlater := start_add_le_now_asked hdelay (wait.connection.patience + 1)
    rw [deadline] at hnext
    omega

section Pauseless

/-! A wait without pauses to which every reply comes at once: the clock stands still. -/

variable (hinterval : wait.options.interval = 0) (hprompt : ∀ k, (wait.reply k).delay = 0)

include hinterval hprompt

theorem now_asked_of_prompt (k : Nat) : (wait.asked k).now = wait.start.now := by
  induction k with
  | zero => rfl
  | succ k ih =>
      rw [now_asked_succ, now_answered, hprompt, ih, SubmitOptions.pause_eq_zero_iff.mpr hinterval,
        Nat.add_zero]

theorem now_answered_of_prompt (k : Nat) : (wait.answered k).now = wait.start.now := by
  rw [now_answered, hprompt, now_asked_of_prompt hinterval hprompt, Nat.add_zero]

/-- Every pause ends one more sleep in the client's turn, until the client gives way. -/
theorem ended_answered_of_prompt {k : Nat} (hturn : wait.start.ended + k ≤ sleepsPerTurn) :
    (wait.answered k).ended = wait.start.ended + k := by
  -- Nobody sleeps for a reply that comes at once; only the pauses count.
  have hstill (k : Nat) : (wait.answered k).ended = (wait.asked k).ended := by
    have hdelay : (wait.replyOn (wait.asked k)).delay = 0 := hprompt k
    rw [answered, answerOn, hdelay]
    rfl
  rw [hstill]
  induction k with
  | zero => rfl
  | succ k ih =>
      have hended : (wait.answered k).ended = wait.start.ended + k := by
        rw [hstill]
        exact ih (by omega)
      have hunspent : (wait.answered k).isSpent = false := by
        rw [Timeline.isSpent, hended, decide_eq_false_iff_not]
        omega
      rw [asked_succ, SubmitOptions.pause_eq_zero_iff.mpr hinterval, Timeline.sleep,
        if_pos ⟨rfl, by rw [hunspent]; rfl⟩, hended]
      rfl

/-- With no time to wait, the client gives way as soon as its turn is used up. -/
theorem givesWay_of_prompt (htimeout : wait.options.timeout = 0) {k : Nat}
    (hturn : wait.start.ended + k = sleepsPerTurn) : wait.GivesWay k := by
  refine ⟨hinterval, ?_, ?_⟩
  · rw [now_answered_of_prompt hinterval hprompt, deadline, htimeout, Nat.add_zero]
  · rw [Timeline.isSpent, ended_answered_of_prompt hinterval hprompt (Nat.le_of_eq hturn), hturn]
    exact decide_eq_true (Nat.le_refl _)

/-- With some time to wait, the deadline does not come, and nothing ends a wait without news. -/
theorem unsettled_of_prompt (htimeout : 0 < wait.options.timeout)
    (hunknown : ∀ k, (wait.reply k).outcome = .ok none) : wait.Unsettled := by
  refine ⟨hinterval, fun k _ => ⟨hunknown k, ?_, ?_⟩⟩
  · rw [now_asked_of_prompt hinterval hprompt, deadline]
    omega
  · rintro ⟨_, hnow, _⟩
    rw [now_answered_of_prompt hinterval hprompt, deadline] at hnow
    omega

end Pauseless

theorem Heard.le_of_givesWay {j k : Nat} (hheard : wait.Heard k) (hgives : wait.GivesWay j) :
    k ≤ j :=
  Nat.le_of_not_lt fun hlt => hheard.stays j hlt hgives

end Wait

namespace Submission

/-- The result that the replies decide. -/
inductive Outcome (submission : Submission) : Except Stop Signature → Prop
  | noInstructions (hinstructions : submission.instructions = []) :
      Outcome submission (.error (.failed (.configuration .noInstructions)))
  | noSigners (hinstructions : submission.instructions ≠ []) (hsigners : submission.signers = []) :
      Outcome submission (.error (.failed (.configuration .noSigners)))
  | undated (hinstructions : submission.instructions ≠ []) (hsigners : submission.signers ≠ [])
      {failure : Failure} (hblockhash : submission.blockhashReply.outcome = .error failure) :
      Outcome submission (.error (.failed failure))
  | unsigned (hinstructions : submission.instructions ≠ []) (hsigners : submission.signers ≠ [])
      {blockhash : Blockhash} (hblockhash : submission.blockhashReply.outcome = .ok blockhash)
      {fault : SigningFault} (hsigning : submission.signing blockhash = .error fault) :
      Outcome submission (.error (.failed (.configuration (.unsigned fault))))
  | unsent {transaction : Transaction} (hsends : submission.Sends transaction) {failure : Failure}
      (hsend : (submission.sendReply transaction).outcome = .error failure) :
      Outcome submission (.error (.failed failure))
  | confirmed {transaction : Transaction} {signature : Signature}
      (hgets : submission.Gets transaction signature) {k : Nat}
      (hheard : (submission.wait transaction signature).Heard k)
      (hreply : ((submission.wait transaction signature).reply k).outcome = .ok (some (.ok ()))) :
      Outcome submission (.ok signature)
  | unanswered {transaction : Transaction} {signature : Signature}
      (hgets : submission.Gets transaction signature) {k : Nat}
      (hheard : (submission.wait transaction signature).Heard k) {failure : Failure}
      (hreply : ((submission.wait transaction signature).reply k).outcome = .error failure) :
      Outcome submission (.error (.failed failure))
  /-- The log lines are those that a look-up right after the status gives, and none if it fails. -/
  | rejected {transaction : Transaction} {signature : Signature}
      (hgets : submission.Gets transaction signature) {k : Nat}
      (hheard : (submission.wait transaction signature).Heard k) {fault : TransactionFault}
      (hreply : ((submission.wait transaction signature).reply k).outcome =
        .ok (some (.error fault))) :
      Outcome submission (.error (.failed (.rejected (some signature) fault.message
        (submission.logLines signature ((submission.wait transaction signature).answered k)))))
  | unconfirmed {transaction : Transaction} {signature : Signature}
      (hgets : submission.Gets transaction signature)
      (hunheard : ∀ k, ¬ (submission.wait transaction signature).Heard k)
      (hsettled : ¬ (submission.wait transaction signature).Unsettled) :
      Outcome submission (.error (.failed (.network (.unconfirmed signature
        submission.options.commitment submission.options.timeout))))
  | undecided {transaction : Transaction} {signature : Signature}
      (hgets : submission.Gets transaction signature)
      (hunsettled : (submission.wait transaction signature).Unsettled) :
      Outcome submission (.error .undecided)

variable {submission : Submission}

theorem settle_error {signature : Signature} {stop : Stop}
    {ended : Except Stop Status × Timeline} (hended : ended.1 = .error stop) :
    (submission.settle signature ended).1 = .error stop := by
  obtain ⟨_, after⟩ := ended
  subst hended
  rfl

/-- The replies decide no other result than that of the run. -/
theorem Outcome.run_eq {result : Except Stop Signature} (houtcome : submission.Outcome result) :
    submission.run.1 = result := by
  cases houtcome with
  | noInstructions hinstructions => rw [run_of_no_instructions hinstructions]
  | noSigners hinstructions hsigners => rw [run_of_no_signers hinstructions hsigners]
  | undated hinstructions hsigners hblockhash =>
      rw [run_of_ready hinstructions hsigners, hblockhash]
  | unsigned hinstructions hsigners hblockhash hsigning =>
      rw [run_of_ready hinstructions hsigners, hblockhash]
      simp only [hsigning]
  | unsent hsends hsend => rw [run_of_sends hsends, hsend]
  | confirmed hgets hheard hreply =>
      rw [run_of_gets hgets, hheard.run_of_status hreply]
      rfl
  | unanswered hgets hheard hreply =>
      rw [run_of_gets hgets, hheard.run_of_failure hreply]
      rfl
  | rejected hgets hheard hreply =>
      rw [run_of_gets hgets, hheard.run_of_status hreply]
      rfl
  | unconfirmed hgets hunheard hsettled =>
      rw [run_of_gets hgets]
      exact settle_error (Wait.run_of_unheard hunheard hsettled)
  | undecided hgets hunsettled =>
      rw [run_of_gets hgets, hunsettled.run]
      rfl

/-- Once a signature has come back, the wait for it decides. -/
theorem Gets.exists_outcome {transaction : Transaction} {signature : Signature}
    (hgets : submission.Gets transaction signature) :
    ∃ result, submission.Outcome result := by
  by_cases hunsettled : (submission.wait transaction signature).Unsettled
  · exact ⟨_, .undecided hgets hunsettled⟩
  by_cases hheard : ∃ k, (submission.wait transaction signature).Heard k
  · obtain ⟨k, hk⟩ := hheard
    rcases hreply : ((submission.wait transaction signature).reply k).outcome with
      failure | _ | fault | _
    · exact ⟨_, .unanswered hgets hk hreply⟩
    · exact absurd hreply hk.told
    · exact ⟨_, .rejected hgets hk hreply⟩
    · exact ⟨_, .confirmed hgets hk hreply⟩
  · exact ⟨_, .unconfirmed hgets (fun k hk => hheard ⟨k, hk⟩) hunsettled⟩

variable (submission) in
theorem exists_outcome : ∃ result, submission.Outcome result := by
  have hcourse := submission.course_run
  generalize submission.run = ended at hcourse
  cases hcourse with
  | noInstructions hinstructions => exact ⟨_, .noInstructions hinstructions⟩
  | noSigners hinstructions hsigners => exact ⟨_, .noSigners hinstructions hsigners⟩
  | undated hinstructions hsigners hblockhash =>
      exact ⟨_, .undated hinstructions hsigners hblockhash⟩
  | unsigned hinstructions hsigners hblockhash hsigning =>
      exact ⟨_, .unsigned hinstructions hsigners hblockhash hsigning⟩
  | unsent hsends hsend => exact ⟨_, .unsent hsends hsend⟩
  | waited hgets => exact hgets.exists_outcome

section Prompt

def constantSigner : Signer where
  key := ⟨List.replicate 32 1, rfl⟩
  sign _ := .ok ⟨List.replicate 64 1, rfl⟩

def constantTransaction : Transaction where
  signatures := [⟨List.replicate 64 1, rfl⟩]
  message := Message.compile [⟨Bytes.zero 32, [], []⟩] constantSigner.key (Bytes.zero 32)

theorem sign_constantTransaction :
    constantTransaction.message.sign [constantSigner] = .ok constantTransaction :=
  Message.sign_eq_ok_iff.mpr
    ⟨[0], [⟨List.replicate 64 1, rfl⟩], by decide, rfl, by decide, rfl⟩

variable (tells : Nat → Option Status) (timeout interval patience : Nat)

/-- A submission to which every reply comes at once.  What a reply tells of the transaction depends
on the number of calls before. -/
def prompt : Submission where
  connection :=
    { account := fun _ _ => ⟨0, .ok none⟩
      latestBlockhash := fun _ => ⟨0, .ok (Bytes.zero 32)⟩
      send := fun _ _ => ⟨0, .ok ⟨List.replicate 64 1, rfl⟩⟩
      status := fun calls _ _ => ⟨0, .ok (tells calls.length)⟩
      logs := fun _ _ _ => ⟨0, .ok none⟩
      patience := patience }
  instructions := [⟨Bytes.zero 32, [], []⟩]
  payer := constantSigner.key
  signers := [constantSigner]
  options := { timeout := timeout, interval := interval }
  start := {}

def promptWait : Wait :=
  (prompt tells timeout interval patience).wait constantTransaction ⟨List.replicate 64 1, rfl⟩

theorem prompt_gets :
    (prompt tells timeout interval patience).Gets constantTransaction
      ⟨List.replicate 64 1, rfl⟩ where
  instructions := List.cons_ne_nil _ _
  signers := List.cons_ne_nil _ _
  blockhash := rfl
  signed := sign_constantTransaction
  accepted := rfl

theorem promptWait_reply (k : Nat) :
    (promptWait tells timeout interval patience).reply k = ⟨0, .ok (tells (k + 2))⟩ := by
  have hcalls : ((promptWait tells timeout interval patience).asked k).calls.length = k + 2 := by
    rw [Wait.calls_asked, List.length_append, List.length_map, List.length_range, Nat.add_comm]
    rfl
  rw [Wait.reply, ← hcalls]
  rfl

theorem promptWait_delay (k : Nat) :
    ((promptWait tells timeout interval patience).reply k).delay = 0 := by
  rw [promptWait_reply]

/-- With no time to wait, the client gives way after as many pauses as fit in a turn. -/
theorem promptWait_givesWay : (promptWait tells 0 0 patience).GivesWay sleepsPerTurn :=
  Wait.givesWay_of_prompt rfl (promptWait_delay _ _ _ _) rfl (Nat.zero_add _)

def successAfter (count calls : Nat) : Option Status :=
  if calls < count then none else some (.ok ())

theorem run_prompt_of_late :
    (prompt (successAfter 131) 0 0 131).run.1 = .error (.failed (.network
      (.unconfirmed ⟨List.replicate 64 1, rfl⟩ .confirmed 0))) := by
  have hunheard (k : Nat) : ¬ (promptWait (successAfter 131) 0 0 131).Heard k := by
    intro hheard
    have hturn : k ≤ 128 := hheard.le_of_givesWay (promptWait_givesWay _ _)
    refine hheard.told ?_
    rw [promptWait_reply, successAfter, if_pos (by omega)]
  have hsettled : ¬ (promptWait (successAfter 131) 0 0 131).Unsettled := fun hunsettled =>
    (hunsettled.continues sleepsPerTurn (by decide)).stays (promptWait_givesWay _ _)
  exact Outcome.run_eq (.unconfirmed (prompt_gets _ _ _ _) hunheard hsettled)

/-- Without pauses and without news, no time passes and the deadline does not come. -/
theorem run_prompt_of_silent : (prompt (fun _ => none) 1 0 patience).run.1 = .error .undecided := by
  have hunknown (k : Nat) :
      ((promptWait (fun _ => none) 1 0 patience).reply k).outcome = .ok none := by
    rw [promptWait_reply]
  have hunsettled : (promptWait (fun _ => none) 1 0 patience).Unsettled :=
    Wait.unsettled_of_prompt rfl (promptWait_delay _ _ _ _) Nat.zero_lt_one hunknown
  exact Outcome.run_eq (.undecided (prompt_gets _ _ _ _) hunsettled)

theorem promptWait_firstTold (count : Nat) :
    (promptWait (successAfter (count + 2)) 0 0 patience).FirstTold count := by
  refine ⟨fun j hj => ?_, ?_, ?_⟩
  · rw [promptWait_reply, successAfter, if_pos (by omega)]
  · rw [promptWait_reply, successAfter, if_neg (by omega)]
    exact fun h => (nomatch h)
  · rw [Wait.InTime, Wait.now_answered_of_prompt rfl (promptWait_delay _ _ _ _)]
    exact Nat.le_refl _

end Prompt

/-- A run has the one result that the replies decide.  With pauses in the wait, that is the first
reply in time that tells something, or the deadline's; and where time passes, there is a result. -/
theorem run_eq_iff_outcome (submission : Submission) (result : Except Stop Signature) :
    (submission.run.1 = result ↔ submission.Outcome result) ∧
      ∀ transaction signature,
        (submission.options.interval ≠ 0 → ∀ k,
          (submission.wait transaction signature).Heard k ↔
            (submission.wait transaction signature).FirstTold k) ∧
        (submission.options.interval ≠ 0 ∨
            (∀ k, 0 < ((submission.wait transaction signature).reply k).delay) ∧
              submission.options.timeout ≤ submission.connection.patience →
          ¬ (submission.wait transaction signature).Unsettled) := by
  refine ⟨⟨?_, Outcome.run_eq⟩, fun transaction signature =>
    ⟨fun hinterval k => Wait.heard_iff_firstTold hinterval,
      @Wait.not_unsettled (submission.wait transaction signature)⟩⟩
  rintro rfl
  obtain ⟨result, houtcome⟩ := submission.exists_outcome
  rwa [houtcome.run_eq]

/-- A success at the deadline itself is heard. -/
theorem prompt_succeeds :
    (prompt (successAfter 3) 500 500 0).options.interval ≠ 0 ∧
      (prompt (successAfter 3) 500 500 0).run.1 = .ok ⟨List.replicate 64 1, rfl⟩ ∧
      ¬ (promptWait (successAfter 3) 500 500 0).Unsettled := by
  have hinterval : (prompt (successAfter 3) 500 500 0).options.interval ≠ 0 := by decide
  obtain ⟨hresult, hwait⟩ := run_eq_iff_outcome (prompt (successAfter 3) 500 500 0)
    (.ok ⟨List.replicate 64 1, rfl⟩)
  obtain ⟨hsame, hsettled⟩ := hwait constantTransaction ⟨List.replicate 64 1, rfl⟩
  have hfirst : (promptWait (successAfter 3) 500 500 0).FirstTold 1 := by
    refine ⟨fun j hj => ?_, ?_, ?_⟩
    · rw [promptWait_reply, successAfter, if_pos (by omega)]
    · rw [promptWait_reply]
      exact fun h => (nomatch h)
    · rw [Wait.InTime]
      decide
  have hheard := (hsame hinterval 1).mpr hfirst
  exact ⟨hinterval, hresult.mpr (.confirmed (prompt_gets _ _ _ _) hheard rfl),
    hsettled (Or.inl hinterval)⟩

/-- The first reply in time that tells something may come to a client that has given way, and a wait
on which no time passes may have no end. -/
theorem prompt_unheard :
    ((promptWait (successAfter 131) 0 0 131).FirstTold 129 ∧
      ((promptWait (successAfter 131) 0 0 131).reply 129).outcome = .ok (some (.ok ())) ∧
      (prompt (successAfter 131) 0 0 131).run.1 = .error (.failed (.network
        (.unconfirmed ⟨List.replicate 64 1, rfl⟩ .confirmed 0)))) ∧
    ∀ patience, (prompt (fun _ => none) 1 0 patience).run.1 = .error .undecided := by
  refine ⟨⟨promptWait_firstTold 131 129, ?_, run_prompt_of_late⟩, run_prompt_of_silent⟩
  rw [promptWait_reply]
  rfl

end Submission

end IssuanceClient
