import IssuanceClient.Binary64

/-!
JSON values, as requests and results hold them.
-/

namespace IssuanceClient

/-- A JSON value.  The fields of an object keep the order in which they are held. -/
inductive Json
  | null
  | bool (value : Bool)
  /-- A number that is held as an integer. -/
  | number (value : Int)
  /-- A number that is held with a fraction or a power. -/
  | real (value : Binary64)
  | string (value : String)
  | array (items : List Json)
  | object (fields : List (String × Json))
deriving Repr, Inhabited

end IssuanceClient
