import IssuanceClient.Snapshot

/-!
The JSON text of a snapshot: its fields in order, numbers bare whatever their size, keys as base58
text, and no space anywhere.
-/

namespace IssuanceClient.Snapshot

/-- The names of the fields with the text of their values. -/
def entries (snapshot : Snapshot) : List (String × String) :=
  let key (key : Key) : String := "\"" ++ key.text ++ "\""
  let wide (x : UInt128) : String := toString x.toNat
  let time (x : Int64) : String := toString x.toInt
  [("version", toString snapshot.version.toNat),
   ("bump", toString snapshot.bump.toNat),
   ("issuer_address", key snapshot.issuer),
   ("lock_mint", key snapshot.lockMint),
   ("reward_mint", key snapshot.rewardMint),
   ("deposit_escrow", key snapshot.depositEscrow),
   ("reward_escrow", key snapshot.rewardEscrow),
   ("platform_treasury", key snapshot.platformTreasury),
   ("reserve_total", wide snapshot.reserve),
   ("start_ts", time snapshot.start),
   ("maturity_ts", time snapshot.maturity),
   ("claim_window", time snapshot.claimWindow),
   ("final_day_index", toString snapshot.finalDay.toNat),
   ("total_locked", wide snapshot.totalLocked),
   ("total_weight_accum", wide snapshot.totalWeight),
   ("last_day_index", toString snapshot.lastDay.toNat),
   ("reserve_funded", if snapshot.reserveFunded then "true" else "false")]

/-- An object's text from the names and values of its fields. -/
def objectText (entries : List (String × String)) : String :=
  "\x7b" ++ ",".intercalate (entries.map fun entry => "\"" ++ entry.1 ++ "\":" ++ entry.2) ++ "\x7d"

/-- The JSON text of a snapshot. -/
def json (snapshot : Snapshot) : String := objectText snapshot.entries

end IssuanceClient.Snapshot
