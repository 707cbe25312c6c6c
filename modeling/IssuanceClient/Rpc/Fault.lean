import IssuanceClient.Failure
import IssuanceClient.Json.Mismatch
import IssuanceClient.Transaction.Fault

/-!
What can go wrong with a request to a node, and which failure of the client it is.
-/

namespace IssuanceClient.Rpc

/-- What a node shows of its trial run of a transaction, which it makes before it takes the
transaction on. -/
structure Simulation where
  logs : Option (List String)
deriving DecidableEq, Repr

/-- Why a request has no usable result. -/
inductive Fault
  | io (message : String)
  | forUser (message : String)
  | request (message : String)
  | unparsed (expected : String)
  | custom (message : String)
  | signing (message : String)
  | transaction (fault : TransactionFault)
  /-- The node answered with an error, perhaps after a simulation, perhaps with the fault in which
  that one ended. -/
  | response (code : Int) (message : String) (simulation : Option Simulation)
      (ending : Option TransactionFault := none)
  /-- The result does not have the expected form. -/
  | malformed (mismatch : Json.Mismatch)
deriving DecidableEq, Repr

/-- The log lines that a response quotes, if there are any. -/
def Simulation.quotation (simulation : Simulation) : String :=
  match simulation.logs.getD [] with
  | [] => ""
  | lines =>
      s!"{lines.length} log messages:\n" ++ String.join (lines.map fun line => "  " ++ line ++ "\n")

def Fault.message : Fault → String
  | .io message => message
  | .forUser message => message
  | .request message => "RPC request error: " ++ message
  | .unparsed expected => "parse error: expected " ++ expected
  | .custom message => "Custom: " ++ message
  | .signing message => "custom error: " ++ message
  | .transaction fault => fault.message
  | .response code message simulation _ =>
      s!"RPC response error {code}: {message}; " ++ (simulation.map Simulation.quotation).getD ""
  | .malformed mismatch => mismatch.message

/-- The failure of a request that was not a submission. -/
def Fault.toFailure (fault : Fault) : Failure := .network (.reported fault.message)

/-- The fault of a transaction that the fault of a request tells of: its own, or the one in which a
simulation ended. -/
def Fault.transactionFault? : Fault → Option TransactionFault
  | .response _ _ (some _) ending => ending
  | .transaction fault => some fault
  | _ => none

/-- The failure of a submission.  A simulation already brings the program's log lines, and then the
response words the reason, even if the simulation ended in a fault of the transaction; without one,
such a fault gives the reason and brings no lines. -/
def Fault.toRejection (signature : Option Signature) (fault : Fault) : Failure :=
  match fault with
  | .response _ message (some simulation) _ =>
      .rejected signature message (simulation.logs.getD [])
  | _ =>
      match fault.transactionFault? with
      | some reason => .rejected signature reason.message []
      | none => fault.toFailure

end IssuanceClient.Rpc
