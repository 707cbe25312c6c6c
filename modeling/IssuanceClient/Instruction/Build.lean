import IssuanceClient.Instruction.Accounts
import IssuanceClient.Payload

/-!
Instructions from a payload and its accounts.  `build` takes any pair and refuses those that do not
belong together; the other four take fields and cannot be given a wrong pair.
-/

namespace IssuanceClient.Instruction

/-- The instruction that a payload and an account list of the same kind make. -/
def build (program : Key) (accounts : AccountList) (payload : Payload) :
    Except Failure Instruction :=
  if payload.kind = accounts.kind then .ok ⟨program, accounts.metas, payload.pack⟩
  else .error (.configuration (.kindMismatch accounts.kind payload.kind))

def initIssuance (program : Key) (accounts : InitAccounts) (reserve : UInt128)
    (start maturity : Int64) : Instruction :=
  ⟨program, accounts.metas, (Payload.initIssuance reserve start maturity).pack⟩

def fundReserve (program : Key) (accounts : FundAccounts) (amount : UInt64) : Instruction :=
  ⟨program, accounts.metas, (Payload.fundReserve amount).pack⟩

def deposit (program : Key) (accounts : DepositAccounts) (amount : UInt64) : Instruction :=
  ⟨program, accounts.metas, (Payload.deposit amount).pack⟩

def claimReward (program : Key) (accounts : ClaimAccounts) : Instruction :=
  ⟨program, accounts.metas, Payload.claimReward.pack⟩

end IssuanceClient.Instruction
