import IssuanceClient.Program

/-!
The handle of one issuance: the program and seeds that identify it, and the address they give.
-/

namespace IssuanceClient

/-- An issuance, identified by its seeds under a program. -/
structure Issuance where
  program : Key
  address : Key
  bump : UInt8
  issuer : Key
  start : Int64
  reserve : UInt128
deriving DecidableEq, Repr

namespace Issuance

/-- The handle of the issuance with the given seeds. -/
def derive (program issuer : Key) (start : Int64) (reserve : UInt128) :
    Except Failure Issuance := do
  let derived ← Address.issuance program issuer start reserve
  return ⟨program, derived.address, derived.bump, issuer, start, reserve⟩

/-- The state address of a participant. -/
def userState (issuance : Issuance) (participant : Key) : Except Failure DerivedAddress :=
  Address.userState issuance.program issuance.address participant

end Issuance

end IssuanceClient
