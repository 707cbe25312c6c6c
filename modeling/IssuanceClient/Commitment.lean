/-!
How firmly a cluster must have accepted a transaction before a reply may speak of it.
-/

namespace IssuanceClient

/-- The levels of acceptance, from the weakest to the strongest. -/
inductive Commitment
  | processed
  | confirmed
  | finalized
deriving DecidableEq, Repr

namespace Commitment

/-- The name by which a request or a setting gives a level. -/
def name : Commitment → String
  | processed => "processed"
  | confirmed => "confirmed"
  | finalized => "finalized"

/-- The name by which a message gives a level. -/
def title : Commitment → String
  | processed => "Processed"
  | confirmed => "Confirmed"
  | finalized => "Finalized"

/-- The level that a name gives. -/
def ofName? (name : String) : Option Commitment :=
  [processed, confirmed, finalized].find? fun level => level.name == name

/-- The level at which logs can be asked for: nothing weaker than `confirmed` serves them. -/
def forLogs : Commitment → Commitment
  | processed => confirmed
  | level => level

end Commitment

end IssuanceClient
