import IssuanceClient.Proofs.CallOrder
import IssuanceClient.Proofs.SubmissionOutcome

/-!
How a wait spends its time.  With pauses in it, a wait needs no counter to come to an end: the
pauses use up the time that it has, so that it is over at its deadline with only so many questions
asked.  Their times, and the replies that came in time, are read off the log.
-/

namespace IssuanceClient

namespace Wait

variable (wait : Wait)

/-- The reply to the status call at a position of the wait's log. -/
def replyAt (made : List TimedCall) (position : Nat) : Reply (Option Status) :=
  wait.connection.status (wait.start.calls ++ made.take position) wait.signature
    wait.options.commitment

/-- The failure of a wait that its deadline ends. -/
def unconfirmed : Failure :=
  .network (.unconfirmed wait.signature wait.options.commitment wait.options.timeout)

/-- A wait that is over by its deadline, and goes no further for those who would watch it longer. -/
structure Ends : Prop where
  decided : wait.run.1 ≠ .error .undecided
  inTime : wait.run.2.now ≤ wait.deadline
  watched : ∀ count, wait.limit ≤ count → wait.rest count 0 = wait.run

/-- A log of status calls, the first of which is made at once and each other one a pause after the
reply to the one before it. -/
structure Paced (made : List TimedCall) : Prop where
  asks : ∀ timed ∈ made, timed.call = wait.question
  first : Logged made 0 wait.start.now wait.question
  next : ∀ position time time', Logged made position time wait.question →
    Logged made (position + 1) time' wait.question →
    time' = time + (wait.replyAt made position).delay + wait.options.pause
  length_le : made.length ≤ wait.options.timeout / wait.options.pause + 1

/-- A wait that has taken all its time, and to which no reply in that time told anything. -/
structure Expired (made : List TimedCall) : Prop where
  now : wait.run.2.now = wait.start.now + wait.options.timeout
  unknown : ∀ position time, Logged made position time wait.question →
    time + (wait.replyAt made position).delay ≤ wait.start.now + wait.options.timeout →
    (wait.replyAt made position).outcome = .ok none

/-- The connection and another one give the wait the same replies, but for those that both let
arrive too late, if ever. -/
def SameInTime (other : Connection) : Prop :=
  ∀ calls,
    wait.connection.status calls wait.signature wait.options.commitment =
      other.status calls wait.signature wait.options.commitment ∨
    wait.options.timeout <
        (wait.connection.status calls wait.signature wait.options.commitment).delay ∧
      wait.options.timeout < (other.status calls wait.signature wait.options.commitment).delay

variable {wait}

/-- The log of a wait that ends with question `n`. -/
def logTo (wait : Wait) (n : Nat) : List TimedCall := (List.range (n + 1)).map wait.entry

theorem logged_logTo_iff {n position time : Nat} :
    Logged (wait.logTo n) position time wait.question ↔
      position ≤ n ∧ time = (wait.asked position).now := by
  rw [Logged, logTo, List.getElem?_map]
  rcases Nat.lt_or_ge position (n + 1) with hlt | hge
  · rw [List.getElem?_range hlt]
    simp [entry, eq_comm, Nat.lt_succ_iff.mp hlt]
  · rw [List.getElem?_eq_none (by simpa using hge), Option.map_none]
    constructor
    · intro hnone
      cases hnone
    · intro hlogged
      exact absurd hlogged.1 (by omega)

theorem replyAt_logTo {n position : Nat} (hposition : position ≤ n) :
    wait.replyAt (wait.logTo n) position = wait.reply position := by
  have htake : (wait.logTo n).take position = (List.range position).map wait.entry := by
    rw [logTo, ← List.map_take, List.take_range, Nat.min_eq_left (by omega)]
  rw [replyAt, htake, ← calls_asked]
  rfl

theorem now_answered_of_logged {n position time : Nat}
    (hlogged : Logged (wait.logTo n) position time wait.question) :
    time + (wait.replyAt (wait.logTo n) position).delay = (wait.answered position).now := by
  obtain ⟨hposition, rfl⟩ := logged_logTo_iff.mp hlogged
  rw [replyAt_logTo hposition, now_answered]

theorem exists_endsAt (hinterval : wait.options.interval ≠ 0) :
    ∃ n < wait.limit, wait.EndsAt n := by
  obtain ⟨k, hk, hnot⟩ := exists_not_continues hinterval
  rcases wait.exists_endsAt_or_continues wait.limit with hends | hcontinues
  · exact hends
  · exact absurd (hcontinues k hk) hnot

theorem now_ending_le (n : Nat) : (wait.ending n).2.now ≤ wait.deadline := by
  rw [ending]
  split
  · exact Nat.le_refl _
  · rename_i hintime
    split
    · exact Nat.le_of_not_lt hintime
    · exact Nat.le_of_not_lt hintime
    · exact Nat.le_refl _

theorem ending_ne_undecided (n : Nat) : (wait.ending n).1 ≠ .error .undecided := by
  rw [ending]
  split
  · intro hundecided
    cases hundecided
  · split <;> (intro hundecided; cases hundecided)

theorem ends (hinterval : wait.options.interval ≠ 0) : wait.Ends := by
  obtain ⟨n, hn, hends⟩ := exists_endsAt hinterval
  have hrun := run_of_endsAt hn hends
  refine ⟨?_, ?_, fun count hcount => ?_⟩
  · rw [hrun]
    exact ending_ne_undecided n
  · rw [hrun]
    exact now_ending_le n
  · rw [hrun, rest_of_endsAt (by omega) hends]

theorem paced_logTo (hinterval : wait.options.interval ≠ 0) {n : Nat} (hn : n < wait.limit) :
    wait.Paced (wait.logTo n) where
  asks := by simp [logTo, entry]
  first := logged_logTo_iff.mpr ⟨Nat.zero_le n, rfl⟩
  next position time time' hlogged hnext := by
    obtain ⟨-, rfl⟩ := logged_logTo_iff.mp hnext
    rw [now_answered_of_logged hlogged, now_asked_succ]
  length_le := by
    have hpause : wait.options.pause ≠ 0 := mt SubmitOptions.pause_eq_zero_iff.mp hinterval
    rw [limit, SubmitOptions.statusCalls, if_neg hpause] at hn
    rw [logTo, List.length_map, List.length_range]
    exact hn

/-- A wait that fails as its deadline makes it fail has taken all its time for nothing, unless that
very failure was a reply. -/
theorem expired_of_ending {n : Nat} (hn : n < wait.limit) (hends : wait.EndsAt n)
    (hending : (wait.ending n).1 = .error (.failed wait.unconfirmed)) :
    wait.Expired (wait.logTo n) ∨ (wait.reply n).outcome = .error wait.unconfirmed := by
  have hrun := run_of_endsAt hn hends
  -- Whichever way the deadline ends the wait, only the reply to the last question can be in doubt.
  have hexpired (hnow : (wait.ending n).2.now = wait.deadline)
      (hlast : wait.InTime n → (wait.reply n).outcome = .ok none) :
      wait.Expired (wait.logTo n) := by
    refine ⟨by rw [hrun, hnow, deadline], fun position time hlogged hintime => ?_⟩
    obtain ⟨hposition, -⟩ := logged_logTo_iff.mp hlogged
    rw [now_answered_of_logged hlogged] at hintime
    rw [replyAt_logTo hposition]
    rcases Nat.lt_or_eq_of_le hposition with hlt | rfl
    · exact (hends.earlier position hlt).unknown
    · exact hlast hintime
  by_cases hintime : wait.InTime n
  · rw [ending_of_inTime hintime] at hending hexpired
    cases hreply : (wait.reply n).outcome with
    | error failure =>
        rw [hreply] at hending
        exact Or.inr (congrArg Except.error (Stop.failed.inj (Except.error.inj hending)))
    | ok status =>
        cases status with
        | some status =>
            rw [hreply] at hending
            cases hending
        | none =>
            rw [hreply] at hexpired
            exact Or.inl (hexpired rfl fun _ => rfl)
  · rw [ending, if_pos (Nat.lt_of_not_le hintime)] at hexpired
    exact Or.inl (hexpired rfl fun h => absurd h hintime)

section Late

variable {connection other : Connection} {timeline : Timeline} {count : Nat}

/-- A reply that comes too late is not even looked at. -/
theorem pollStatus_of_late (hstart : wait.start.now ≤ timeline.now)
    (hlate : wait.options.timeout <
      (connection.status timeline.calls wait.signature wait.options.commitment).delay) :
    pollStatus connection wait.signature wait.options wait.deadline (count + 1) timeline =
      expire wait.signature wait.options wait.deadline (timeline.record wait.question) := by
  refine if_pos ?_
  rw [Timeline.now_receive, deadline]
  change _ < timeline.now + _
  omega

theorem pollStatus_eq_of_sameInTime (hsame : wait.SameInTime other)
    (hstart : wait.start.now ≤ timeline.now) :
    pollStatus other wait.signature wait.options wait.deadline count timeline =
      pollStatus wait.connection wait.signature wait.options wait.deadline count timeline := by
  induction count generalizing timeline with
  | zero => rfl
  | succ count ih =>
      rcases hsame timeline.calls with hreply | ⟨hlate, hlate'⟩
      · have hnext := @ih ((wait.answerOn timeline).sleep wait.options.pause) (by
          rw [Timeline.now_sleep, answerOn, Timeline.now_receive]
          change _ ≤ timeline.now + _ + _
          omega)
        rw [answerOn, replyOn, question] at hnext
        simp only [pollStatus, ← hreply, hnext]
      · rw [pollStatus_of_late hstart hlate, pollStatus_of_late hstart hlate']

theorem run_eq_of_sameInTime (hinterval : wait.options.interval ≠ 0)
    (hsame : wait.SameInTime other) : run { wait with connection := other } = wait.run := by
  have hpause : wait.options.pause ≠ 0 := mt SubmitOptions.pause_eq_zero_iff.mp hinterval
  have hlimit : limit { wait with connection := other } = wait.limit := by
    simp only [limit, SubmitOptions.statusCalls, if_neg hpause]
  rw [run_eq_rest, hlimit]
  exact pollStatus_eq_of_sameInTime hsame (Nat.le_refl _)

end Late

end Wait

namespace Submission

variable {submission : Submission} {transaction : Transaction} {signature : Signature}

/-- With pauses in it, the wait for a transaction that was sent is over at its deadline, and its
questions are a pause apart.  It fails for its deadline only when all its time has passed and every
reply in that time told nothing; replies that come later, or never, have no part in it.  A pause is
as long as the options ask for, up to the longest sleep. -/
theorem wait_ends_paced (hgets : submission.Gets transaction signature)
    (hinterval : submission.options.interval ≠ 0) :
    let wait := submission.wait transaction signature
    submission.run = submission.settle signature wait.run ∧ wait.Ends ∧
    (∃ made, wait.run.2.calls = (submission.sent transaction).calls ++ made ∧ wait.Paced made ∧
      (wait.run.1 = .error (.failed wait.unconfirmed) →
        wait.Expired made ∨ ∃ position < made.length,
          (wait.replyAt made position).outcome = .error wait.unconfirmed)) ∧
    (∀ other, wait.SameInTime other → Wait.run { wait with connection := other } = wait.run) ∧
    submission.options.pause = min submission.options.interval longestSleep := by
  intro wait
  have hwait : wait.options.interval ≠ 0 := hinterval
  obtain ⟨n, hn, hends⟩ := Wait.exists_endsAt hwait
  have hrun := Wait.run_of_endsAt hn hends
  refine ⟨run_of_gets hgets, Wait.ends hwait,
    ⟨wait.logTo n, ?_, Wait.paced_logTo hwait hn, fun hfailed => ?_⟩,
    fun other hsame => Wait.run_eq_of_sameInTime hwait hsame, rfl⟩
  · rw [hrun, Wait.calls_ending, Wait.calls_answered]
    rfl
  · rw [hrun] at hfailed
    refine (Wait.expired_of_ending hn hends hfailed).imp_right fun hreply => ⟨n, ?_, ?_⟩
    · simp [Wait.logTo]
    · rwa [Wait.replyAt_logTo (Nat.le_refl n)]

/-- A second's wait with pauses of half a second, in which nothing is ever told. -/
def silent : Submission := prompt (fun _ => none) 1000 500 0

theorem length_constantSignature : (List.replicate 64 (1 : UInt8)).length = 64 :=
  List.length_replicate

def silentWait : Wait :=
  silent.wait constantTransaction ⟨List.replicate 64 1, length_constantSignature⟩

/-- Three questions fit into the silent wait, and nothing comes of them. -/
theorem wait_ends_paced_silent :
    silent.Gets constantTransaction ⟨List.replicate 64 1, rfl⟩ ∧
      silent.options.interval ≠ 0 ∧ silentWait.Ends ∧
      ∃ made, silentWait.run.2.calls = (silent.sent constantTransaction).calls ++ made ∧
        made.length = 3 ∧ silentWait.Paced made ∧ silentWait.Expired made := by
  have hgets : silent.Gets constantTransaction ⟨List.replicate 64 1, rfl⟩ := prompt_gets _ _ _ _
  have hinterval : silent.options.interval ≠ 0 := by decide
  obtain ⟨-, hends, ⟨made, hmade, hpaced, hexpires⟩, -, -⟩ := wait_ends_paced hgets hinterval
  have hlength : made.length = 3 := by
    have hcalls := congrArg List.length hmade
    rw [List.length_append] at hcalls
    exact Nat.add_left_cancel hcalls.symm
  refine ⟨hgets, hinterval, hends, made, hmade, hlength, hpaced, (hexpires rfl).resolve_right ?_⟩
  rintro ⟨position, -, hreply⟩
  exact nomatch hreply

/-- A wait with pauses that are to be longer than any sleep, and a little longer than the wait. -/
def oversleeping : Submission := prompt (successAfter 3) longestSleep (longestSleep + 1) 0

/-- A pause that is to be longer than any sleep is cut short: a second question is asked before such
a pause is over, in a wait that has time for one. -/
theorem oversleeping_asks_early :
    oversleeping.Gets constantTransaction ⟨List.replicate 64 1, rfl⟩ ∧
      oversleeping.options.timeout / oversleeping.options.interval + 1 = 1 ∧
      longestSleep < oversleeping.options.interval ∧
      oversleeping.run.1 = .ok ⟨List.replicate 64 1, rfl⟩ ∧
      oversleeping.run.2.calls = (oversleeping.sent constantTransaction).calls ++
        [⟨0, .status ⟨List.replicate 64 1, rfl⟩ .confirmed⟩,
          ⟨longestSleep, .status ⟨List.replicate 64 1, rfl⟩ .confirmed⟩] :=
  ⟨prompt_gets _ _ _ _, by decide, by decide, rfl, by decide +kernel⟩

end Submission

end IssuanceClient
