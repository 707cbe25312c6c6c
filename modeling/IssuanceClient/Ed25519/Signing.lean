import IssuanceClient.Ed25519.Curve
import IssuanceClient.Hash.Sha2

/-!
Deterministic signatures from a 32-byte seed.  The seed's digest gives a secret scalar in its first
half and, in its second, the key material from which each message's nonce is drawn.
-/

namespace IssuanceClient.Ed25519

/-- The order of the group that `Point.base` generates. -/
def groupOrder : Nat := (1 <<< 252) + 27742317777372353535851937790883648493

/-- The secret scalar of a seed: bit 254 set, the three lowest bits and the top one cleared. -/
def secretScalar (seed : Bytes 32) : Nat :=
  let low := LittleEndian.decode ((sha512 seed.toList).toList.take 32)
  (1 <<< 254) + (low % (1 <<< 254) - low % 8)

/-- The half of a seed's digest from which nonces are drawn. -/
def nonceKey (seed : Bytes 32) : List UInt8 := (sha512 seed.toList).toList.drop 32

/-- The public key of a seed. -/
def publicKey (seed : Bytes 32) : Bytes 32 := (Point.base.multiple (secretScalar seed)).encode

/-- A digest read as a scalar. -/
def scalarOf (message : List UInt8) : Nat :=
  LittleEndian.decode (sha512 message).toList % groupOrder

/-- The signature of a message: the nonce's point, then the scalar that answers the challenge. -/
def sign (seed : Bytes 32) (message : List UInt8) : Bytes 64 :=
  let nonce := scalarOf (nonceKey seed ++ message)
  let noncePoint := (Point.base.multiple nonce).encode
  let challenge := scalarOf (noncePoint.toList ++ (publicKey seed).toList ++ message)
  let answer := (nonce + challenge * secretScalar seed) % groupOrder
  ⟨noncePoint.toList ++ LittleEndian.encode 32 answer, by simp⟩

end IssuanceClient.Ed25519
