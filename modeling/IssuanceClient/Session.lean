import IssuanceClient.Fetch

/-!
A client at work: the issuance it deals with and the last state it saw of it.
-/

namespace IssuanceClient

/-- What is remembered from one step of the work to the next. -/
structure Session where
  issuance : Option Issuance := none
  snapshot : Option Snapshot := none
deriving DecidableEq, Repr

namespace Session

/-- Turns to an issuance. -/
def turnTo (session : Session) (issuance : Issuance) : Session :=
  { session with issuance := some issuance }

/-- Keeps a snapshot. -/
def keep (session : Session) (snapshot : Snapshot) : Session :=
  { session with snapshot := some snapshot }

end Session

end IssuanceClient
