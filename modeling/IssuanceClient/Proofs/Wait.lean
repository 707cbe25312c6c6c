import IssuanceClient.Submission

/-!
The course of a wait.  Its questions follow each other at times that the replies and the pause alone
determine, so the wait is an initial part of one endless sequence: it goes on as long as every reply
knows nothing and leaves time for another question, and it ends at the first one that does not.
-/

namespace IssuanceClient

theorem SubmitOptions.pause_eq_zero_iff {options : SubmitOptions} :
    options.pause = 0 ↔ options.interval = 0 :=
  sleepTime_eq_zero_iff

/-- Whom a wait asks about what, for how long, and where on the timeline it begins. -/
structure Wait where
  connection : Connection
  signature : Signature
  options : SubmitOptions
  start : Timeline

namespace Wait

variable (wait : Wait)

def deadline : Nat := wait.start.now + wait.options.timeout

def question : Call := .status wait.signature wait.options.commitment

/-- The reply to the question if it is asked on a given timeline. -/
def replyOn (timeline : Timeline) : Reply (Option Status) :=
  wait.connection.status timeline.calls wait.signature wait.options.commitment

def answerOn (timeline : Timeline) : Timeline :=
  (timeline.record wait.question).receive (wait.replyOn timeline).delay

/-- The timeline on which a question is asked, counted from zero, if nothing stops the wait. -/
def asked : Nat → Timeline
  | 0 => wait.start
  | k + 1 => (wait.answerOn (asked k)).sleep wait.options.pause

def reply (k : Nat) : Reply (Option Status) := wait.replyOn (wait.asked k)

/-- The timeline on which the reply to a question arrives. -/
def answered (k : Nat) : Timeline := wait.answerOn (wait.asked k)

def run : Except Stop Status × Timeline :=
  awaitStatus wait.connection wait.signature wait.options wait.start

/-- How many questions anybody looks at. -/
def limit : Nat := wait.options.statusCalls wait.connection.patience

@[simp] theorem asked_zero : wait.asked 0 = wait.start := rfl

theorem asked_succ (k : Nat) :
    wait.asked (k + 1) = (wait.answered k).sleep wait.options.pause := rfl

theorem now_answered (k : Nat) :
    (wait.answered k).now = (wait.asked k).now + (wait.reply k).delay := by
  rw [answered, answerOn, Timeline.now_receive]
  rfl

theorem now_asked_succ (k : Nat) :
    (wait.asked (k + 1)).now = (wait.answered k).now + wait.options.pause := by
  rw [asked_succ, Timeline.now_sleep]

def entry (k : Nat) : TimedCall := ⟨(wait.asked k).now, wait.question⟩

theorem calls_answered_eq_append (k : Nat) :
    (wait.answered k).calls = (wait.asked k).calls ++ [wait.entry k] := by
  rw [answered, answerOn, Timeline.calls_receive]
  rfl

/-- The first `k` questions, and nothing else, are what has been called before question `k`. -/
theorem calls_asked (k : Nat) :
    (wait.asked k).calls = wait.start.calls ++ (List.range k).map wait.entry := by
  induction k with
  | zero => simp
  | succ k ih =>
      rw [asked_succ, Timeline.calls_sleep, calls_answered_eq_append, ih, List.append_assoc,
        List.range_succ, List.map_append]
      rfl

theorem calls_answered (k : Nat) :
    (wait.answered k).calls = wait.start.calls ++ (List.range (k + 1)).map wait.entry := by
  rw [← calls_asked, asked_succ, Timeline.calls_sleep]

theorem now_asked_mono {j k : Nat} (hjk : j ≤ k) : (wait.asked j).now ≤ (wait.asked k).now := by
  induction hjk with
  | refl => exact Nat.le_refl _
  | step _ ih =>
      rw [now_asked_succ, now_answered]
      omega

/-- Questions are at least a pause apart. -/
theorem start_add_pauses_le_now_asked (k : Nat) :
    wait.start.now + k * wait.options.pause ≤ (wait.asked k).now := by
  induction k with
  | zero => simp
  | succ k ih =>
      rw [now_asked_succ, now_answered, Nat.succ_mul]
      omega

/-- The reply to a question arrives while its arrival still counts. -/
def InTime (k : Nat) : Prop := (wait.answered k).now ≤ wait.deadline

/-- The client gives way at the deadline: it does not ask again, though no time would pass. -/
def GivesWay (k : Nat) : Prop :=
  wait.options.interval = 0 ∧ (wait.answered k).now = wait.deadline ∧ (wait.answered k).isSpent

structure Continues (k : Nat) : Prop where
  unknown : (wait.reply k).outcome = .ok none
  inTime : (wait.asked (k + 1)).now ≤ wait.deadline
  stays : ¬ wait.GivesWay k

structure EndsAt (n : Nat) : Prop where
  earlier : ∀ k < n, wait.Continues k
  last : ¬ wait.Continues n

/-- What becomes of a wait that ends with a question. -/
def ending (n : Nat) : Except Stop Status × Timeline :=
  if wait.deadline < (wait.answered n).now then
    expire wait.signature wait.options wait.deadline ((wait.asked n).record wait.question)
  else
    match (wait.reply n).outcome with
    | .error failure => (.error (.failed failure), wait.answered n)
    | .ok (some status) => (.ok status, wait.answered n)
    | .ok none => expire wait.signature wait.options wait.deadline (wait.answered n)

def rest (count k : Nat) : Except Stop Status × Timeline :=
  pollStatus wait.connection wait.signature wait.options wait.deadline count (wait.asked k)

theorem rest_succ (count k : Nat) :
    wait.rest (count + 1) k =
      if wait.deadline < (wait.answered k).now then
        expire wait.signature wait.options wait.deadline ((wait.asked k).record wait.question)
      else
        match (wait.reply k).outcome with
        | .error failure => (.error (.failed failure), wait.answered k)
        | .ok (some status) => (.ok status, wait.answered k)
        | .ok none =>
            if wait.deadline < (wait.answered k).now + wait.options.pause ∨
                (wait.answered k).now = wait.deadline ∧ (wait.answered k).isSpent then
              expire wait.signature wait.options wait.deadline (wait.answered k)
            else wait.rest count (k + 1) :=
  rfl

variable {wait}

theorem rest_of_continues {k : Nat} (hcontinues : wait.Continues k) (count : Nat) :
    wait.rest (count + 1) k = wait.rest count (k + 1) := by
  have hnext := hcontinues.inTime
  rw [now_asked_succ] at hnext
  have hanswered : ¬ wait.deadline < (wait.answered k).now := by omega
  have hstays : ¬ (wait.deadline < (wait.answered k).now + wait.options.pause ∨
      (wait.answered k).now = wait.deadline ∧ (wait.answered k).isSpent) := by
    rintro (hlate | ⟨hnow, hspent⟩)
    · omega
    · exact hcontinues.stays ⟨SubmitOptions.pause_eq_zero_iff.mp (by omega), hnow, hspent⟩
  rw [rest_succ, if_neg hanswered, hcontinues.unknown]
  exact if_neg hstays

theorem rest_of_not_continues {k : Nat} (hends : ¬ wait.Continues k) (count : Nat) :
    wait.rest (count + 1) k = wait.ending k := by
  rw [rest_succ, ending]
  split
  · rfl
  · cases houtcome : (wait.reply k).outcome with
    | error failure => rfl
    | ok status =>
        cases status with
        | some status => rfl
        | none =>
            refine if_pos (Decidable.byContradiction fun hgoes => hends ⟨houtcome, ?_, ?_⟩)
            · rw [now_asked_succ]
              omega
            · rintro ⟨_, hnow, hspent⟩
              exact hgoes (Or.inr ⟨hnow, hspent⟩)

/-- A wait that has not ended yet has asked one question after the other. -/
theorem rest_zero_of_continues {n : Nat} (hcontinues : ∀ k < n, wait.Continues k) (count : Nat) :
    wait.rest (n + count) 0 = wait.rest count n := by
  induction n generalizing count with
  | zero => rw [Nat.zero_add]
  | succ n ih =>
      rw [Nat.succ_add_eq_add_succ, ih (fun k hk => hcontinues k (by omega)),
        rest_of_continues (hcontinues n (by omega))]

theorem rest_of_endsAt {n count : Nat} (hn : n < count) (hends : wait.EndsAt n) :
    wait.rest count 0 = wait.ending n := by
  obtain ⟨more, rfl⟩ : ∃ more, count = n + (more + 1) := ⟨count - n - 1, by omega⟩
  rw [rest_zero_of_continues hends.earlier, rest_of_not_continues hends.last]

theorem run_eq_rest : wait.run = wait.rest wait.limit 0 := rfl

theorem run_of_endsAt {n : Nat} (hn : n < wait.limit) (hends : wait.EndsAt n) :
    wait.run = wait.ending n := by
  rw [run_eq_rest, rest_of_endsAt hn hends]

/-- What becomes of a wait that nobody has seen the end of. -/
theorem run_of_continues (hcontinues : ∀ k < wait.limit, wait.Continues k) :
    wait.run = (.error .undecided, wait.asked wait.limit) := by
  rw [run_eq_rest, ← Nat.add_zero wait.limit, rest_zero_of_continues hcontinues]
  rfl

theorem calls_ending (n : Nat) : (wait.ending n).2.calls = (wait.answered n).calls := by
  rw [ending, answered, answerOn, Timeline.calls_receive]
  split
  · rfl
  · split <;> simp [expire]

theorem ending_eq_ok_iff {n : Nat} {status : Status} :
    (wait.ending n).1 = .ok status ↔
      wait.InTime n ∧ (wait.reply n).outcome = .ok (some status) := by
  rw [ending, InTime]
  split
  · rename_i hlate
    exact ⟨fun h => (nomatch h), fun h => absurd h.1 (by omega)⟩
  · rename_i hintime
    have hle : (wait.answered n).now ≤ wait.deadline := by omega
    split <;> simp_all [expire]

variable (wait) in
theorem exists_endsAt_or_continues (count : Nat) :
    (∃ n < count, wait.EndsAt n) ∨ ∀ k < count, wait.Continues k := by
  induction count with
  | zero => exact Or.inr fun k hk => absurd hk (Nat.not_lt_zero k)
  | succ count ih =>
      rcases ih with ⟨n, hn, hends⟩ | hcontinues
      · exact Or.inl ⟨n, by omega, hends⟩
      · by_cases hlast : wait.Continues count
        · refine Or.inr fun k hk => ?_
          rcases Nat.lt_succ_iff_lt_or_eq.mp hk with hlt | rfl
          · exact hcontinues k hlt
          · exact hlast
        · exact Or.inl ⟨count, by omega, hcontinues, hlast⟩

/-- With pauses between them, only so many questions fit before the deadline. -/
theorem exists_not_continues (hinterval : wait.options.interval ≠ 0) :
    ∃ k < wait.limit, ¬ wait.Continues k := by
  have hpause : wait.options.pause ≠ 0 := mt SubmitOptions.pause_eq_zero_iff.mp hinterval
  -- By this question the pauses alone have used up the time, so that no other one can follow.
  refine ⟨wait.options.timeout / wait.options.pause, ?_, fun hcontinues => ?_⟩
  · rw [limit, SubmitOptions.statusCalls, if_neg hpause]
    omega
  · have hfirst := wait.start_add_pauses_le_now_asked
      (wait.options.timeout / wait.options.pause + 1)
    have hlast := hcontinues.inTime
    have hlong := Nat.lt_div_mul_add (a := wait.options.timeout) (Nat.pos_of_ne_zero hpause)
    rw [Nat.succ_mul] at hfirst
    rw [deadline] at hlast
    omega

theorem EndsAt.le_of_not_continues {n k : Nat} (hends : wait.EndsAt n) (hk : ¬ wait.Continues k) :
    n ≤ k :=
  Nat.le_of_not_lt fun hlt => hk (hends.earlier k hlt)

theorem limit_of_interval_eq_zero (hinterval : wait.options.interval = 0) :
    wait.limit = wait.connection.patience + sleepsPerTurn := by
  rw [limit, SubmitOptions.statusCalls, if_pos (SubmitOptions.pause_eq_zero_iff.mpr hinterval)]

theorem limit_pos : 0 < wait.limit := by
  rw [limit, SubmitOptions.statusCalls]
  split
  · exact Nat.add_pos_right _ (by decide)
  · exact Nat.succ_pos _

/-- Whoever watches a wait without pauses sees only so many questions of it. -/
def Watched (wait : Wait) (k : Nat) : Prop :=
  wait.options.interval = 0 → k < wait.connection.patience + sleepsPerTurn

/-- A wait without pauses still goes on after everything that anybody watched. -/
structure Unsettled (wait : Wait) : Prop where
  interval : wait.options.interval = 0
  continues : ∀ k < wait.connection.patience + sleepsPerTurn, wait.Continues k

theorem EndsAt.lt_limit_iff {n : Nat} (hends : wait.EndsAt n) :
    n < wait.limit ↔ wait.Watched n := by
  by_cases hinterval : wait.options.interval = 0
  · rw [limit_of_interval_eq_zero hinterval]
    exact ⟨fun hn _ => hn, fun hwatched => hwatched hinterval⟩
  · obtain ⟨k, hk, hnot⟩ := exists_not_continues hinterval
    have hle := hends.le_of_not_continues hnot
    exact ⟨fun _ hzero => absurd hzero hinterval, fun _ => Nat.lt_of_le_of_lt hle hk⟩

theorem unsettled_iff : wait.Unsettled ↔ ∀ k < wait.limit, wait.Continues k := by
  constructor
  · intro hunsettled
    rw [limit_of_interval_eq_zero hunsettled.interval]
    exact hunsettled.continues
  · intro hcontinues
    have hinterval : wait.options.interval = 0 := Decidable.byContradiction fun hinterval =>
      let ⟨k, hk, hnot⟩ := exists_not_continues hinterval
      hnot (hcontinues k hk)
    rw [limit_of_interval_eq_zero hinterval] at hcontinues
    exact ⟨hinterval, hcontinues⟩

variable (wait) in
/-- What a wait leaves in the log: one question or more, of which all but the last one told nothing,
while the last one alone decides what the wait has found. -/
theorem exists_last_question :
    ∃ n, (∀ k < n, (wait.reply k).outcome = .ok none) ∧
      wait.run.2.calls = wait.start.calls ++ (List.range (n + 1)).map wait.entry ∧
      ∀ status, wait.run.1 = .ok status ↔
        wait.InTime n ∧ (wait.reply n).outcome = .ok (some status) := by
  rcases wait.exists_endsAt_or_continues wait.limit with ⟨n, hn, hends⟩ | hcontinues
  · refine ⟨n, fun k hk => (hends.earlier k hk).unknown, ?_⟩
    rw [run_of_endsAt hn hends, calls_ending, calls_answered]
    exact ⟨rfl, fun _ => ending_eq_ok_iff⟩
  · have hpos : 0 < wait.limit := limit_pos
    obtain ⟨n, hn⟩ : ∃ n, wait.limit = n + 1 := ⟨wait.limit - 1, by omega⟩
    refine ⟨n, fun k hk => (hcontinues k (by omega)).unknown, ?_⟩
    rw [run_of_continues hcontinues, calls_asked, hn]
    refine ⟨rfl, fun status => ⟨fun h => (nomatch h), fun h => ?_⟩⟩
    rw [(hcontinues n (by omega)).unknown] at h
    exact (nomatch h.2)

end Wait

end IssuanceClient
