import IssuanceClient.Draft
import IssuanceClient.Submission.Confirmation

/-!
Submitting transactions: sign, send once, and wait for the outcome.  Nothing is sent twice; trying
again is left to the caller.
-/

namespace IssuanceClient

/-- The failure of a transaction that the program rejected, with its log lines if they can be had.
A failing look-up of the logs does not hide the rejection. -/
def rejection (connection : Connection) (signature : Signature) (fault : TransactionFault)
    (commitment : Commitment) : Run Failure := do
  let outcome ← Run.attempt (.logs signature commitment) fun calls =>
    connection.logs calls signature commitment
  let lines := match outcome with
    | .ok lines => lines.getD []
    | .error _ => []
  return .rejected (some signature) fault.message lines

/-- Signs some instructions as one transaction, sends it and waits for its status. -/
def submit (connection : Connection) (instructions : List Instruction) (payer : Key)
    (signers : List Signer) (options : SubmitOptions) : Run Signature := do
  if instructions.isEmpty then Run.fail (.configuration .noInstructions)
  else if signers.isEmpty then Run.fail (.configuration .noSigners)
  else
    let blockhash ← connection.getLatestBlockhash
    let message := Message.compile instructions payer blockhash
    let transaction ← Run.ofExcept <|
      (message.sign signers).mapError fun fault => .configuration (.unsigned fault)
    let signature ← connection.sendTransaction transaction
    match ← awaitStatus connection signature options with
    | .ok () => return signature
    | .error fault => Run.fail (← rejection connection signature fault options.commitment)

/-- Submits a draft's instruction at the cost of its payer, once the draft lacks nothing. -/
def Draft.submit (draft : Draft) (connection : Connection) (signers : List Signer)
    (options : SubmitOptions) : Run Signature := do
  let instruction ← Run.ofExcept draft.instruction
  let payer ← Run.ofExcept draft.payer
  IssuanceClient.submit connection [instruction] payer signers options

end IssuanceClient
