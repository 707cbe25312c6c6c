import IssuanceClient.Failure
import IssuanceClient.Payload.Fieldwise

/-!
Reading a payload back.  The tag and the width are checked before any field is read, so a payload is
refused for one stated reason; the field reader has nothing left to refuse.
-/

namespace IssuanceClient

/-- The kind that a tag byte announces, or the failure for a tag that no kind has. -/
def Kind.ofTag (tag : UInt8) : Except Failure Kind :=
  match Kind.ofTag? tag with
  | some kind => .ok kind
  | none => .error (.unknownTag tag)

/-- The payload that some bytes hold. -/
def Payload.unpack : List UInt8 → Except Failure Payload
  | [] => .error .emptyInstruction
  | tag :: fields => do
      let kind ← Kind.ofTag tag
      let actual := (tag :: fields).length
      if actual ≠ kind.width then throw (.wrongWidth tag kind.width actual)
      match Fieldwise.decode (tag :: fields) with
      | .ok payload => return payload
      | .error _ => throw (.wrongWidth tag kind.width actual)

end IssuanceClient
