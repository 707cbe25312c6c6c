import IssuanceClient.Snapshot

/-!
Writing a snapshot's fields in the order of the layout.  The flag that says whether the reserve is
funded is any byte, of which only zero means no, so it is given apart.
-/

namespace IssuanceClient.Snapshot

/-- The fields before the flag. -/
def packFields (snapshot : Snapshot) : List UInt8 :=
  [snapshot.version, snapshot.bump] ++ snapshot.issuer.toList ++ snapshot.lockMint.toList ++
    snapshot.rewardMint.toList ++ snapshot.depositEscrow.toList ++ snapshot.rewardEscrow.toList ++
    snapshot.platformTreasury.toList ++ LittleEndian.ofUInt128 snapshot.reserve ++
    LittleEndian.ofInt64 snapshot.start ++ LittleEndian.ofInt64 snapshot.maturity ++
    LittleEndian.ofInt64 snapshot.claimWindow ++ LittleEndian.ofUInt64 snapshot.finalDay ++
    LittleEndian.ofUInt128 snapshot.totalLocked ++ LittleEndian.ofUInt128 snapshot.totalWeight ++
    LittleEndian.ofUInt64 snapshot.lastDay

/-- All fields, with the flag byte that stands for `reserveFunded`. -/
def pack (snapshot : Snapshot) (flag : UInt8) : List UInt8 :=
  snapshot.packFields ++ [flag]

theorem length_pack (snapshot : Snapshot) (flag : UInt8) :
    (snapshot.pack flag).length = Layout.minLength := by
  simp [pack, packFields, LittleEndian.ofUInt128, LittleEndian.ofInt64, LittleEndian.ofUInt64,
    Layout.minLength, Layout.reserveFunded]

end IssuanceClient.Snapshot
