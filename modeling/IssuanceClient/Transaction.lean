import IssuanceClient.Ed25519.Signing
import IssuanceClient.Failure
import IssuanceClient.Message.Wire

/-!
Transactions and their signing.  A signer's signature goes to the first position of its key among
the keys that sign; no position may be left with zeros.
-/

namespace IssuanceClient

/-- A message with one signature for each key that signs. -/
structure Transaction where
  signatures : List Signature
  message : Message
deriving DecidableEq, Repr

def Transaction.encode (transaction : Transaction) : List UInt8 :=
  Wire.list Bytes.toList transaction.signatures ++ transaction.message.encode

/-- Someone who signs: a public key, and what comes of asking for a signature of some bytes. -/
structure Signer where
  key : Key
  sign : List UInt8 → Except String Signature

/-- The signer that holds the key pair of a seed. -/
def Signer.ofSeed (seed : Bytes 32) : Signer where
  key := Ed25519.publicKey seed
  sign message := .ok (Ed25519.sign seed message)

/-- The signature that stands for a missing one. -/
def Signature.missing : Signature := Bytes.zero 64

namespace Message

/-- The positions to which the signatures of some signers go, if each has one. -/
def positions? (message : Message) (signers : List Signer) : Option (List Nat) :=
  signers.mapM fun signer => message.signerKeys.idxOf? signer.key

/-- The signatures of some signers, or the refusal of the first who refuses. -/
def signatures (message : Message) (signers : List Signer) : Except SigningFault (List Signature) :=
  signers.mapM fun signer => (signer.sign message.encode).mapError .refused

/-- The signature list after the given ones went to their positions; the last one at a position
stays. -/
def place (message : Message) (positions : List Nat) (signatures : List Signature) :
    List Signature :=
  (positions.zip signatures).foldl (fun placed entry => placed.set entry.1 entry.2)
    (List.replicate message.header.signers Signature.missing)

/-- The transaction of a message that some signers sign. -/
def sign (message : Message) (signers : List Signer) : Except SigningFault Transaction := do
  let some positions := message.positions? signers | throw .keyMismatch
  let signatures ← message.signatures signers
  let placed := message.place positions signatures
  if Signature.missing ∈ placed then throw .notEnough
  return ⟨placed, message⟩

end Message

end IssuanceClient
