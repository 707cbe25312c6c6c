import IssuanceClient.Commitment
import IssuanceClient.Sleep
import IssuanceClient.Transaction
import IssuanceClient.Transaction.Fault

/-!
Connections to a cluster, and runs of a client over them.  A connection answers each call from what
was called before; an answer takes some time to arrive.  A run keeps the calls it made with their
times, so that what a client did can be read off its end.
-/

namespace IssuanceClient

/-- What a cluster stores at an address. -/
structure Account where
  lamports : UInt64
  owner : Key
  data : List UInt8
  executable : Bool
  rentEpoch : UInt64
deriving DecidableEq, Repr

/-- What became of a transaction that a cluster has processed. -/
abbrev Status := Except TransactionFault Unit

/-- The calls that a client makes. -/
inductive Call
  | account (address : Key)
  | latestBlockhash
  | send (transaction : Transaction)
  | status (signature : Signature) (commitment : Commitment)
  | logs (signature : Signature) (commitment : Commitment)
deriving DecidableEq, Repr

/-- A call and the time at which it was made, in milliseconds. -/
structure TimedCall where
  time : Nat
  call : Call
deriving DecidableEq, Repr

/-- An outcome that arrives some milliseconds after its call.  For a wait that ends at a deadline,
an outcome that never arrives is one whose delay outlasts the wait. -/
structure Reply (α : Type) where
  delay : Nat
  outcome : Except Failure α

/-- The reply as it arrives when it has been prepared, and its delay is slept through. -/
def Reply.prepared {α : Type} (reply : Reply α) : Reply α :=
  { reply with delay := sleepTime reply.delay }

/-- Something that answers calls, each in the light of those before it. -/
structure Connection where
  /-- An account, or none where the address is empty. -/
  account : List TimedCall → Key → Reply (Option Account)
  latestBlockhash : List TimedCall → Reply Blockhash
  send : List TimedCall → Transaction → Reply Signature
  /-- None as long as the transaction has not reached the commitment. -/
  status : List TimedCall → Signature → Commitment → Reply (Option Status)
  logs : List TimedCall → Signature → Commitment → Reply (Option (List String))
  /-- How many status calls of one wait are followed up when the client makes no pause between them.
  Until its deadline has come, nothing else bounds such a wait. -/
  patience : Nat

/-- A clock, the calls made so far, and how many sleeps have ended in the client's present turn. -/
structure Timeline where
  now : Nat := 0
  calls : List TimedCall := []
  ended : Nat := 0
deriving DecidableEq, Repr

namespace Timeline

/-- The timeline after one more call, which the clock does not notice. -/
def record (timeline : Timeline) (call : Call) : Timeline :=
  { timeline with calls := timeline.calls ++ [⟨timeline.now, call⟩] }

/-- Whether the client gives way at its next sleep. -/
def isSpent (timeline : Timeline) : Bool := sleepsPerTurn ≤ timeline.ended

/-- The timeline after a sleep. -/
def sleep (timeline : Timeline) (span : Nat) : Timeline :=
  if span = 0 ∧ !timeline.isSpent then { timeline with ended := timeline.ended + 1 }
  else { timeline with now := timeline.now + span, ended := 1 }

/-- The timeline after a reply that took some time.  For one that comes at once nobody sleeps. -/
def receive (timeline : Timeline) (delay : Nat) : Timeline :=
  if delay = 0 then timeline else timeline.sleep delay

@[simp] theorem now_sleep (timeline : Timeline) (span : Nat) :
    (timeline.sleep span).now = timeline.now + span := by
  rw [sleep]
  split
  · simp_all
  · rfl

@[simp] theorem calls_sleep (timeline : Timeline) (span : Nat) :
    (timeline.sleep span).calls = timeline.calls := by
  rw [sleep]
  split <;> rfl

@[simp] theorem now_receive (timeline : Timeline) (delay : Nat) :
    (timeline.receive delay).now = timeline.now + delay := by
  rw [receive]
  split
  · simp_all
  · exact now_sleep timeline delay

@[simp] theorem calls_receive (timeline : Timeline) (delay : Nat) :
    (timeline.receive delay).calls = timeline.calls := by
  rw [receive]
  split
  · rfl
  · exact calls_sleep timeline delay

end Timeline

/-- Why a run has no result. -/
inductive Stop
  | failed (failure : Failure)
  /-- A wait without pauses was still going on when nobody looked any further. -/
  | undecided
deriving DecidableEq, Repr

/-- A computation that makes calls and lets time pass. -/
def Run (α : Type) : Type := Timeline → Except Stop α × Timeline

namespace Run

/-- The run that does nothing. -/
protected def pure {α : Type} (value : α) : Run α := fun timeline => (.ok value, timeline)

/-- A run followed by another, unless the first one stops. -/
protected def bind {α β : Type} (run : Run α) (next : α → Run β) : Run β := fun timeline =>
  match run timeline with
  | (.ok value, after) => next value after
  | (.error stop, after) => (.error stop, after)

instance : Monad Run where
  pure := Run.pure
  bind := Run.bind

/-- The run that fails at once. -/
def fail {α : Type} (failure : Failure) : Run α := fun timeline =>
  (.error (.failed failure), timeline)

/-- The run of a computation that needs no connection. -/
def ofExcept {α : Type} : Except Failure α → Run α
  | .ok value => pure value
  | .error failure => fail failure

/-- One call, whose outcome is taken as it is. -/
def attempt {α : Type} (call : Call) (answer : List TimedCall → Reply α) :
    Run (Except Failure α) := fun timeline =>
  let reply := answer timeline.calls
  (.ok reply.outcome, (timeline.record call).receive reply.delay)

/-- One call, whose failure is that of the run. -/
def ask {α : Type} (call : Call) (answer : List TimedCall → Reply α) : Run α := do
  ofExcept (← attempt call answer)

@[simp] theorem pure_apply {α : Type} (value : α) (timeline : Timeline) :
    (pure value : Run α) timeline = (.ok value, timeline) :=
  rfl

theorem bind_apply {α β : Type} (run : Run α) (next : α → Run β) (timeline : Timeline) :
    (run >>= next) timeline =
      match run timeline with
      | (.ok value, after) => next value after
      | (.error stop, after) => (.error stop, after) :=
  rfl

theorem ask_apply {α : Type} (call : Call) (answer : List TimedCall → Reply α)
    (timeline : Timeline) :
    ask call answer timeline =
      ((answer timeline.calls).outcome.mapError .failed,
        (timeline.record call).receive (answer timeline.calls).delay) := by
  rw [ask, bind_apply]
  simp only [attempt]
  cases (answer timeline.calls).outcome <;> rfl

theorem ask_bind_apply {α β : Type} (call : Call) (answer : List TimedCall → Reply α)
    (next : α → Run β) (timeline : Timeline) :
    (ask call answer >>= next) timeline =
      let after := (timeline.record call).receive (answer timeline.calls).delay
      match (answer timeline.calls).outcome with
      | .ok value => next value after
      | .error failure => (.error (.failed failure), after) := by
  rw [bind_apply, ask_apply]
  cases (answer timeline.calls).outcome <;> rfl

theorem ofExcept_bind_apply {α β : Type} (outcome : Except Failure α) (next : α → Run β)
    (timeline : Timeline) :
    (ofExcept outcome >>= next) timeline =
      match outcome with
      | .ok value => next value timeline
      | .error failure => (.error (.failed failure), timeline) := by
  cases outcome <;> rfl

end Run

namespace Connection

def getAccount (connection : Connection) (address : Key) : Run (Option Account) :=
  Run.ask (.account address) fun calls => connection.account calls address

def getLatestBlockhash (connection : Connection) : Run Blockhash :=
  Run.ask .latestBlockhash connection.latestBlockhash

def sendTransaction (connection : Connection) (transaction : Transaction) : Run Signature :=
  Run.ask (.send transaction) fun calls => connection.send calls transaction

def getStatus (connection : Connection) (signature : Signature) (commitment : Commitment) :
    Run (Option Status) :=
  Run.ask (.status signature commitment) fun calls => connection.status calls signature commitment

def getLogs (connection : Connection) (signature : Signature) (commitment : Commitment) :
    Run (Option (List String)) :=
  Run.ask (.logs signature commitment) fun calls => connection.logs calls signature commitment

end Connection

end IssuanceClient
