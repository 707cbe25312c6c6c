import IssuanceClient.Ed25519.Curve
import IssuanceClient.Failure
import IssuanceClient.Hash.Sha2

/-!
Program addresses.  A program owns the addresses that are digests of its id with some seeds and lie
off the curve, where no private key exists.  About half of all digests are curve points, so one more
seed, the bump, is counted down from 255 until a digest is none.
-/

namespace IssuanceClient

/-- An address with the bump that produced it. -/
structure DerivedAddress where
  address : Key
  bump : UInt8
deriving DecidableEq, Repr

def DerivedAddress.isOffCurve (derived : DerivedAddress) : Bool :=
  !Ed25519.isPoint derived.address

namespace Address

/-- The text that closes the hashed bytes, `ProgramDerivedAddress`. -/
def marker : List UInt8 :=
  [80, 114, 111, 103, 114, 97, 109, 68, 101, 114, 105, 118, 101, 100, 65, 100, 100, 114, 101, 115,
   115]

/-- The bytes whose digest is the address of some seeds under a program. -/
def preimage (seeds : List (List UInt8)) (program : Key) : List UInt8 :=
  seeds.flatten ++ program.toList ++ marker

/-- The address of a complete list of seeds, the bump included. -/
def create (seeds : List (List UInt8)) (program : Key) : Except SeedFault Key :=
  if maxSeeds < seeds.length then .error .tooLong
  else if seeds.any (maxSeedLength < ·.length) then .error .tooLong
  else
    let digest := sha256 (preimage seeds program)
    if Ed25519.isPoint digest then .error .onCurve else .ok digest

/-- Tries the bumps below `count`, the largest first. -/
def search (seeds : List (List UInt8)) (program : Key) :
    (count : Nat) → Except Failure DerivedAddress
  | 0 => .error (.derivationExhausted program)
  | count + 1 =>
      let bump := UInt8.ofNat count
      match create (seeds ++ [[bump]]) program with
      | .ok address => .ok ⟨address, bump⟩
      | .error .onCurve => search seeds program count
      | .error fault => .error (.configuration (.invalidSeeds program fault))

/-- The address of some seeds under a program, with the largest bump that gives one.  The bump takes
one of the places for seeds. -/
def derive (seeds : List (List UInt8)) (program : Key) : Except Failure DerivedAddress :=
  if maxSeeds ≤ seeds.length then .error (.configuration (.tooManySeeds seeds.length))
  else
    match seeds.findIdx? (maxSeedLength < ·.length) with
    | some index =>
        .error (.configuration (.seedTooLong index (seeds.getD index []).length))
    | none => search seeds program 256

end Address

end IssuanceClient
