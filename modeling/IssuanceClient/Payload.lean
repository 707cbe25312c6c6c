import IssuanceClient.Bytes.LittleEndian
import IssuanceClient.Kind

/-!
The payload of an instruction: a tag byte and fields of fixed width, with nothing between or after
them.
-/

namespace IssuanceClient

/-- What an instruction asks of the issuance program. -/
inductive Payload
  /-- Create the issuance, with the rewards it will pay out and the time it runs. -/
  | initIssuance (reserve : UInt128) (start maturity : Int64)
  /-- Move the rewards into escrow. -/
  | fundReserve (amount : UInt64)
  /-- Lock an amount of the lock mint. -/
  | deposit (amount : UInt64)
  /-- Take the reward out after maturity. -/
  | claimReward
deriving DecidableEq, Repr

namespace Payload

def kind : Payload → Kind
  | initIssuance .. => .initIssuance
  | fundReserve .. => .fundReserve
  | deposit .. => .deposit
  | claimReward => .claimReward

/-- The bytes of a payload. -/
def pack : Payload → List UInt8
  | initIssuance reserve start maturity =>
      Kind.initIssuance.tag :: LittleEndian.ofUInt128 reserve ++ LittleEndian.ofInt64 start ++
        LittleEndian.ofInt64 maturity
  | fundReserve amount => Kind.fundReserve.tag :: LittleEndian.ofUInt64 amount
  | deposit amount => Kind.deposit.tag :: LittleEndian.ofUInt64 amount
  | claimReward => [Kind.claimReward.tag]

theorem length_pack (payload : Payload) : payload.pack.length = payload.kind.width := by
  cases payload <;>
    simp [pack, kind, Kind.width, LittleEndian.ofUInt128, LittleEndian.ofInt64,
      LittleEndian.ofUInt64]

end Payload

end IssuanceClient
