import IssuanceClient.Bytes
import IssuanceClient.Text.Base58

/-!
Public keys, signatures and blockhashes, and their base58 text.  The two ways in which a text can
fail to name a byte string of a given width are kept apart, since each has a message of its own.
-/

namespace IssuanceClient

/-- A public key or an account address. -/
abbrev Key := Bytes 32

/-- The signature of a transaction's message. -/
abbrev Signature := Bytes 64

/-- The hash of a recent block, which dates a transaction. -/
abbrev Blockhash := Bytes 32

/-- Why a text names no byte string of the wanted width. -/
inductive TextFault
  | wrongSize
  | notBase58
deriving DecidableEq, Repr

namespace Bytes

/-- The base58 text of a byte string. -/
def text {n : Nat} (bytes : Bytes n) : String := Base58.encode bytes.toList

/-- The byte string that a text names.  The length of the text is looked at first, then its
characters, then the number of bytes they stand for. -/
def ofText (n longest : Nat) (text : String) : Except TextFault (Bytes n) :=
  if text.utf8ByteSize > longest then .error .wrongSize
  else
    match Base58.decode? text with
    | none => .error .notBase58
    | some bytes =>
        match ofList? n bytes with
        | none => .error .wrongSize
        | some fixed => .ok fixed

end Bytes

/-- The key that a text names; no key needs more than 44 characters. -/
def keyOfText (text : String) : Except TextFault Key := Bytes.ofText 32 44 text

/-- The signature that a text names; no signature needs more than 88 characters. -/
def signatureOfText (text : String) : Except TextFault Signature := Bytes.ofText 64 88 text

/-- The message for a text that is no key. -/
def TextFault.keyMessage : TextFault → String
  | .wrongSize => "String is the wrong size"
  | .notBase58 => "Invalid Base58 string"

/-- The message for a text that is no signature. -/
def TextFault.signatureMessage : TextFault → String
  | .wrongSize => "string decoded to wrong size for signature"
  | .notBase58 => "failed to decode string to signature"

end IssuanceClient
