import IssuanceClient.Commitment
import IssuanceClient.Sleep

/-!
How long, and how firmly, to wait for a transaction after it was sent.
-/

namespace IssuanceClient

/-- The level to wait for, and two spans in milliseconds: the longest wait, and the pause asked for
between a reply and the next question. -/
structure SubmitOptions where
  commitment : Commitment := .confirmed
  timeout : Nat := 30000
  interval : Nat := 500
deriving DecidableEq, Repr

/-- The time that passes between a reply and the next question. -/
def SubmitOptions.pause (options : SubmitOptions) : Nat := sleepTime options.interval

end IssuanceClient
