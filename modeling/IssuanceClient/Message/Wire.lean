import IssuanceClient.Message

/-!
The bytes of a message, which are what its signers sign.  Every list is preceded by its length.
-/

namespace IssuanceClient

namespace Wire

/-- A length in groups of seven bits, the lowest first; the high bit says that more follow. -/
def compact (n : Nat) : List UInt8 :=
  if n < 128 then [UInt8.ofNat n] else UInt8.ofNat (n % 128 + 128) :: compact (n / 128)
termination_by n
decreasing_by exact Nat.div_lt_self (by omega) (by omega)

/-- A list of bytes after its length. -/
def counted (bytes : List UInt8) : List UInt8 := compact bytes.length ++ bytes

/-- A list of items after their number. -/
def list {α : Type} (encode : α → List UInt8) (items : List α) : List UInt8 :=
  compact items.length ++ items.flatMap encode

end Wire

def Header.encode (header : Header) : List UInt8 :=
  [UInt8.ofNat header.signers, UInt8.ofNat header.readOnlySigners,
   UInt8.ofNat header.readOnlyOthers]

def CompiledInstruction.encode (instruction : CompiledInstruction) : List UInt8 :=
  instruction.program :: Wire.counted instruction.accounts ++ Wire.counted instruction.data

def Message.encode (message : Message) : List UInt8 :=
  message.header.encode ++ Wire.list Bytes.toList message.keys ++ message.blockhash.toList ++
    Wire.list CompiledInstruction.encode message.instructions

end IssuanceClient
