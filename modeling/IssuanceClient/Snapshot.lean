import IssuanceClient.Bytes.LittleEndian
import IssuanceClient.Failure

/-!
Snapshots of an issuance's state account.  The account has a fixed layout: seventeen fields that
follow each other without a gap, numbers little-endian, and reserved bytes after them.
-/

namespace IssuanceClient

/-- The state of an issuance as it was when its account was read. -/
structure Snapshot where
  version : UInt8
  bump : UInt8
  issuer : Key
  lockMint : Key
  rewardMint : Key
  depositEscrow : Key
  rewardEscrow : Key
  platformTreasury : Key
  reserve : UInt128
  start : Int64
  maturity : Int64
  claimWindow : Int64
  finalDay : UInt64
  totalLocked : UInt128
  totalWeight : UInt128
  lastDay : UInt64
  reserveFunded : Bool
deriving DecidableEq, Repr

namespace Layout

/-- The value of the version byte under this layout. -/
def layoutVersion : UInt8 := 1

def version : Nat := 0
def bump : Nat := 1
def issuer : Nat := 2
def lockMint : Nat := 34
def rewardMint : Nat := 66
def depositEscrow : Nat := 98
def rewardEscrow : Nat := 130
def platformTreasury : Nat := 162
def reserve : Nat := 194
def start : Nat := 210
def maturity : Nat := 218
def claimWindow : Nat := 226
def finalDay : Nat := 234
def totalLocked : Nat := 242
def totalWeight : Nat := 258
def lastDay : Nat := 274
def reserveFunded : Nat := 282

/-- The offsets in the order of the fields. -/
def offsets : List Nat :=
  [version, bump, issuer, lockMint, rewardMint, depositEscrow, rewardEscrow, platformTreasury,
   reserve, start, maturity, claimWindow, finalDay, totalLocked, totalWeight, lastDay,
   reserveFunded]

/-- The number of bytes that the fields take up. -/
def minLength : Nat := reserveFunded + 1

/-- The size of the whole account, reserved bytes included. -/
def accountSize : Nat := 292

/-- A field of `n` bytes, read from data that covers the fields. -/
def field (data : List UInt8) (covered : minLength ≤ data.length) (n offset : Nat)
    (fits : offset + n ≤ minLength := by decide) : Bytes n :=
  Bytes.slice n data offset (Nat.le_trans fits covered)

/-- A single byte, read from data that covers the fields. -/
def byte (data : List UInt8) (covered : minLength ≤ data.length) (offset : Nat)
    (fits : offset < minLength := by decide) : UInt8 :=
  data.get ⟨offset, Nat.lt_of_lt_of_le fits covered⟩

end Layout

namespace Snapshot

/-- The fields of data that covers them all, whatever its version byte. -/
def read (data : List UInt8) (covered : Layout.minLength ≤ data.length) : Snapshot where
  version := Layout.byte data covered Layout.version
  bump := Layout.byte data covered Layout.bump
  issuer := Layout.field data covered 32 Layout.issuer
  lockMint := Layout.field data covered 32 Layout.lockMint
  rewardMint := Layout.field data covered 32 Layout.rewardMint
  depositEscrow := Layout.field data covered 32 Layout.depositEscrow
  rewardEscrow := Layout.field data covered 32 Layout.rewardEscrow
  platformTreasury := Layout.field data covered 32 Layout.platformTreasury
  reserve := LittleEndian.toUInt128 (Layout.field data covered 16 Layout.reserve).toList
  start := LittleEndian.toInt64 (Layout.field data covered 8 Layout.start).toList
  maturity := LittleEndian.toInt64 (Layout.field data covered 8 Layout.maturity).toList
  claimWindow := LittleEndian.toInt64 (Layout.field data covered 8 Layout.claimWindow).toList
  finalDay := LittleEndian.toUInt64 (Layout.field data covered 8 Layout.finalDay).toList
  totalLocked := LittleEndian.toUInt128 (Layout.field data covered 16 Layout.totalLocked).toList
  totalWeight := LittleEndian.toUInt128 (Layout.field data covered 16 Layout.totalWeight).toList
  lastDay := LittleEndian.toUInt64 (Layout.field data covered 8 Layout.lastDay).toList
  reserveFunded := Layout.byte data covered Layout.reserveFunded != 0

/-- The snapshot that an account's data holds.  Bytes behind the last field are ignored, and data of
another version is refused rather than read at these offsets. -/
def unpack (data : List UInt8) : Except Failure Snapshot :=
  if covered : Layout.minLength ≤ data.length then
    let snapshot := read data covered
    if snapshot.version = Layout.layoutVersion then .ok snapshot
    else .error (.unsupportedVersion snapshot.version Layout.version)
  else .error (.dataTooShort Layout.minLength data.length)

/-- The end of the claim window, unless it lies beyond every timestamp. -/
def claimWindowEnd (snapshot : Snapshot) : Option Int64 :=
  let sum := snapshot.maturity.toInt + snapshot.claimWindow.toInt
  if Int64.minValue.toInt ≤ sum ∧ sum ≤ Int64.maxValue.toInt then some (Int64.ofInt sum) else none

end Snapshot

end IssuanceClient
