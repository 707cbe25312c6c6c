import IssuanceClient.Failure
import IssuanceClient.Submission.Options
import IssuanceClient.Text.Blank

/-!
The configuration of a client.  It is read from a source of variables; a variable that is missing or
holds nothing but white space leaves its setting at the default, and only the program has none.
-/

namespace IssuanceClient

/-- Where the cluster is, which program to talk to, and how to wait for transactions. -/
structure Config where
  url : String
  program : Key
  options : SubmitOptions
deriving DecidableEq, Repr

namespace Config

def defaultUrl : String := "http://127.0.0.1:8899"

/-- The configuration of a program when nothing else is set. -/
def ofProgram (program : Key) : Config := ⟨defaultUrl, program, {}⟩

/-- The largest number of milliseconds that a setting may give. -/
def maxMilliseconds : Nat := UInt64.size - 1

/-- A source of variables: the text of each one that is set. -/
abbrev Source := String → Option String

/-- The text of a setting without the white space around it, unless nothing is left. -/
def Source.value (source : Source) (setting : Setting) : Option String :=
  ((source setting.name).map Text.trimmed).filter (· ≠ "")

def readProgram (source : Source) : Except Failure Key :=
  match source.value .programId with
  | none => .error (.configuration (.unset .programId))
  | some text =>
      (keyOfText text).mapError fun fault => .configuration (.invalidKey .programId text fault)

def readCommitment (source : Source) (default : Commitment) : Except Failure Commitment :=
  match source.value .commitment with
  | none => .ok default
  | some text =>
      match Commitment.ofName? text with
      | some commitment => .ok commitment
      | none => .error (.configuration (.invalidCommitment text))

def readMilliseconds (source : Source) (setting : Setting) (default : Nat) : Except Failure Nat :=
  match source.value setting with
  | none => .ok default
  | some text =>
      (Text.readUnsigned maxMilliseconds text).mapError fun fault =>
        .configuration (.invalidNumber setting text fault)

/-- The configuration that a source gives.  The settings are looked at in this order, and the first
that is malformed decides the failure. -/
def read (source : Source) : Except Failure Config := do
  let program ← readProgram source
  let default := ofProgram program
  let url := (source.value .rpcUrl).getD default.url
  let commitment ← readCommitment source default.options.commitment
  let timeout ← readMilliseconds source .confirmTimeout default.options.timeout
  let interval ← readMilliseconds source .pollInterval default.options.interval
  return ⟨url, program, ⟨commitment, timeout, interval⟩⟩

end Config

end IssuanceClient
