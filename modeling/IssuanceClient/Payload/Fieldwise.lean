import IssuanceClient.Payload

/-!
The program's own reading and writing of payloads.  It goes field by field: the number of a variant,
then each field of the variant from the bytes that the one before it left over, and it looks at the
length only where a field runs out of input or bytes remain at the end.  It knows nothing of tags: a
variant's number is its place in the declaration.
-/

namespace IssuanceClient.Fieldwise

/-- Why bytes are no payload, as seen from the field at which reading stopped. -/
inductive Fault
  | unexpectedEnd
  | unknownVariant (tag : UInt8)
  | trailingBytes
deriving DecidableEq, Repr

def Fault.message : Fault → String
  | .unexpectedEnd => "Unexpected length of input"
  | .unknownVariant tag => s!"Unexpected variant tag: {tag.toNat}"
  | .trailingBytes => "Not all bytes read"

/-- Reads a value off the front of the input, which becomes what is left. -/
abbrev Reader := StateT (List UInt8) (Except Fault)

/-- The next `count` bytes. -/
def bytes (count : Nat) : Reader (List UInt8) := fun input =>
  if input.length < count then .error .unexpectedEnd
  else .ok (input.take count, input.drop count)

def uint64 : Reader UInt64 := LittleEndian.toUInt64 <$> bytes 8

def int64 : Reader Int64 := LittleEndian.toInt64 <$> bytes 8

def uint128 : Reader UInt128 := LittleEndian.toUInt128 <$> bytes 16

/-- The variants of a payload, in the order in which the program declares them. -/
def variants : List Kind := [.initIssuance, .fundReserve, .deposit, .claimReward]

/-- The number of a variant: how many others are declared before it. -/
def number (variant : Kind) : UInt8 := .ofNat (variants.idxOf variant)

/-- The next byte, as the number of a variant. -/
def variant : Reader UInt8 := fun input =>
  match input with
  | [] => .error .unexpectedEnd
  | tag :: rest => .ok (tag, rest)

/-- The next payload. -/
def payload : Reader Payload := do
  let tag ← variant
  match variants[tag.toNat]? with
  | none => throw (.unknownVariant tag)
  | some .initIssuance => return .initIssuance (← uint128) (← int64) (← int64)
  | some .fundReserve => return .fundReserve (← uint64)
  | some .deposit => return .deposit (← uint64)
  | some .claimReward => return .claimReward

/-- Reads a payload that takes up the whole input. -/
def decode (input : List UInt8) : Except Fault Payload :=
  match payload input with
  | .error fault => .error fault
  | .ok (payload, []) => .ok payload
  | .ok (_, _ :: _) => .error .trailingBytes

/-- A field of a payload. -/
inductive Field
  | uint64 (x : UInt64)
  | int64 (x : Int64)
  | uint128 (x : UInt128)
deriving DecidableEq, Repr

def Field.encode : Field → List UInt8
  | .uint64 x => LittleEndian.ofUInt64 x
  | .int64 x => LittleEndian.ofInt64 x
  | .uint128 x => LittleEndian.ofUInt128 x

/-- The fields of a payload, in the order in which they are declared. -/
def fields : Payload → List Field
  | .initIssuance reserve start maturity => [.uint128 reserve, .int64 start, .int64 maturity]
  | .fundReserve amount => [.uint64 amount]
  | .deposit amount => [.uint64 amount]
  | .claimReward => []

/-- Writes the number of the variant and then every field. -/
def encode (payload : Payload) : List UInt8 :=
  number payload.kind :: (fields payload).flatMap Field.encode

end IssuanceClient.Fieldwise
