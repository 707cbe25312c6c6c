import IssuanceClient.Address

/-!
The fixed programs that instructions refer to, and the three recipes by which addresses are derived.
-/

namespace IssuanceClient

/-- The program that holds tokens. -/
def tokenProgram : Key :=
  ⟨[6, 221, 246, 225, 215, 101, 161, 147, 217, 203, 225, 70, 206, 235, 121, 172,
    28, 180, 133, 237, 95, 91, 55, 145, 58, 140, 245, 133, 126, 255, 0, 169], rfl⟩

/-- The program that owns the token account of each owner and mint. -/
def tokenAccountProgram : Key :=
  ⟨[140, 151, 37, 143, 78, 36, 137, 241, 187, 61, 16, 41, 20, 142, 13, 131,
    11, 90, 19, 153, 218, 255, 16, 132, 4, 142, 123, 216, 219, 233, 248, 89], rfl⟩

/-- The program that creates accounts. -/
def systemProgram : Key := Bytes.zero 32

namespace Address

/-- The first seed of an issuance, `issuance`. -/
def issuanceSeed : List UInt8 := [105, 115, 115, 117, 97, 110, 99, 101]

/-- The first seed of a participant's state, `user`. -/
def userSeed : List UInt8 := [117, 115, 101, 114]

/-- The seeds of an issuance: its issuer, its start and its reserve. -/
def issuanceSeeds (issuer : Key) (start : Int64) (reserve : UInt128) : List (List UInt8) :=
  [issuanceSeed, issuer.toList, LittleEndian.ofInt64 start, LittleEndian.ofUInt128 reserve]

/-- The seeds of a participant's state in an issuance. -/
def userSeeds (issuance participant : Key) : List (List UInt8) :=
  [userSeed, issuance.toList, participant.toList]

/-- The seeds of an owner's token account for a mint. -/
def tokenAccountSeeds (owner mint : Key) : List (List UInt8) :=
  [owner.toList, tokenProgram.toList, mint.toList]

/-- The address of an issuance's state. -/
def issuance (program issuer : Key) (start : Int64) (reserve : UInt128) :
    Except Failure DerivedAddress :=
  derive (issuanceSeeds issuer start reserve) program

/-- The address of a participant's state in an issuance. -/
def userState (program issuance participant : Key) : Except Failure DerivedAddress :=
  derive (userSeeds issuance participant) program

/-- The address of an owner's token account for a mint. -/
def tokenAccount (owner mint : Key) : Except Failure DerivedAddress :=
  derive (tokenAccountSeeds owner mint) tokenAccountProgram

end Address

end IssuanceClient
