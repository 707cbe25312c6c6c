import IssuanceClient.Connection
import IssuanceClient.Submission.Options

/-!
Waiting for a transaction.  Status calls follow each other, with a pause after every reply that
knows nothing yet, until one tells more, fails, or a deadline has passed.  What happens at the
deadline itself still counts, until the client gives way; what would happen later does not happen.
-/

namespace IssuanceClient

/-- How many status calls a wait can come to.  Calls are at least a pause apart, so the pause bounds
them.  Without one the connection's patience bounds them, and at the deadline the client's turn. -/
def SubmitOptions.statusCalls (options : SubmitOptions) (patience : Nat) : Nat :=
  if options.pause = 0 then patience + sleepsPerTurn else options.timeout / options.pause + 1

/-- The end of a wait at its deadline. -/
def expire {α : Type} (signature : Signature) (options : SubmitOptions) (deadline : Nat) :
    Run α := fun timeline =>
  (.error (.failed (.network (.unconfirmed signature options.commitment options.timeout))),
    { timeline with now := deadline })

/-- At most `count` status calls up to a deadline. -/
def pollStatus (connection : Connection) (signature : Signature) (options : SubmitOptions)
    (deadline : Nat) : (count : Nat) → Run Status
  | 0 => fun timeline => (.error .undecided, timeline)
  | count + 1 => fun timeline =>
      let reply := connection.status timeline.calls signature options.commitment
      let asked := timeline.record (.status signature options.commitment)
      let answered := asked.receive reply.delay
      if deadline < answered.now then expire signature options deadline asked
      else
        match reply.outcome with
        | .error failure => (.error (.failed failure), answered)
        | .ok (some status) => (.ok status, answered)
        | .ok none =>
            if deadline < answered.now + options.pause ∨ answered.now = deadline ∧ answered.isSpent
            then expire signature options deadline answered
            else
              pollStatus connection signature options deadline count
                (answered.sleep options.pause)

/-- Waits until the status of a transaction is known, for no longer than the options allow. -/
def awaitStatus (connection : Connection) (signature : Signature) (options : SubmitOptions) :
    Run Status := fun timeline =>
  pollStatus connection signature options (timeline.now + options.timeout)
    (options.statusCalls connection.patience) timeline

end IssuanceClient
