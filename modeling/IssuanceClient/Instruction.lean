import IssuanceClient.Key

/-!
Raw instructions: a program, the accounts it is given by position, and the bytes it decodes.
-/

namespace IssuanceClient

/-- An account of an instruction, with the rights that the program asks for. -/
structure AccountMeta where
  key : Key
  signer : Bool
  writable : Bool
deriving DecidableEq, Repr

namespace AccountMeta

/-- An account that the program may change. -/
def changed (key : Key) : AccountMeta := ⟨key, false, true⟩

/-- An account that the program only reads. -/
def consulted (key : Key) : AccountMeta := ⟨key, false, false⟩

/-- The same account, whose owner must sign. -/
def signed (account : AccountMeta) : AccountMeta := { account with signer := true }

end AccountMeta

/-- An instruction as a cluster takes it. -/
structure Instruction where
  program : Key
  accounts : List AccountMeta
  data : List UInt8
deriving DecidableEq, Repr

end IssuanceClient
