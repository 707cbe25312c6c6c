import IssuanceClient.Snapshot.Pack

/-!
The layout of a snapshot.  Seventeen fields tile the first 283 bytes of an account's data: what
stands at their offsets is what comes of writing one field after the other.  So reading undoes
writing, and writing undoes reading but for the flag, which is only told from zero.
-/

namespace IssuanceClient

namespace Layout

/-- Some bytes stand in the data at an offset. -/
def Holds (data : List UInt8) (offset : Nat) (bytes : List UInt8) : Prop :=
  bytes <+: data.drop offset

/-- Bytes to be written at offsets follow each other from one offset to another, with no gap and no
overlap. -/
def Tiles : (start : Nat) → (fields : List (Nat × List UInt8)) → (stop : Nat) → Prop
  | start, [], stop => start = stop
  | start, (offset, bytes) :: rest, stop => offset = start ∧ Tiles (start + bytes.length) rest stop

variable {data : List UInt8} {offset : Nat}

theorem holds_zero_iff {bytes : List UInt8} :
    Holds data 0 bytes ↔ ∃ rest, data = bytes ++ rest := by
  rw [Holds, List.drop_zero]
  constructor
  · rintro ⟨rest, rfl⟩
    exact ⟨rest, rfl⟩
  · rintro ⟨rest, rfl⟩
    exact ⟨rest, rfl⟩

theorem holds_append_iff {front back : List UInt8} :
    Holds data offset (front ++ back) ↔
      Holds data offset front ∧ Holds data (offset + front.length) back := by
  have hdrop : data.drop (offset + front.length) = (data.drop offset).drop front.length :=
    List.drop_drop.symm
  rw [Holds, Holds, Holds, hdrop]
  constructor
  · rintro ⟨rest, hrest⟩
    rw [← hrest]
    constructor
    · exact ⟨back ++ rest, by rw [List.append_assoc]⟩
    · rw [List.append_assoc, List.drop_left]
      exact ⟨rest, rfl⟩
  · rintro ⟨⟨rest, hfront⟩, hback⟩
    rw [← hfront, List.drop_left] at hback
    obtain ⟨left, rfl⟩ := hback
    exact ⟨left, by rw [← hfront, List.append_assoc]⟩

/-- Tiles stand at their offsets exactly where they stand as one piece. -/
theorem Tiles.holds_flatMap_iff {start stop : Nat} {fields : List (Nat × List UInt8)}
    (htiles : Tiles start fields stop) :
    Holds data start (fields.flatMap Prod.snd) ↔ ∀ field ∈ fields, Holds data field.1 field.2 := by
  induction fields generalizing start with
  | nil => simp [Holds]
  | cons field rest ih =>
      obtain ⟨offset, bytes⟩ := field
      obtain ⟨rfl, hrest⟩ := htiles
      rw [List.flatMap_cons, holds_append_iff, ih hrest, List.forall_mem_cons]

theorem Holds.take_eq {bytes : List UInt8} (hholds : Holds data offset bytes) :
    (data.drop offset).take bytes.length = bytes := by
  obtain ⟨rest, hrest⟩ := hholds
  rw [← hrest, List.take_left]

/-- The `n` bytes from an offset, if the data goes on that far. -/
def field? (data : List UInt8) (n offset : Nat) : Option (Bytes n) :=
  Bytes.ofList? n ((data.drop offset).take n)

section Reading

variable (covered : minLength ≤ data.length)

theorem getElem?_eq_byte (fits : offset < minLength) :
    data[offset]? = some (byte data covered offset fits) :=
  List.getElem?_eq_getElem (Nat.lt_of_lt_of_le fits covered)

theorem field?_eq_field {n : Nat} (fits : offset + n ≤ minLength) :
    field? data n offset = some (field data covered n offset fits) :=
  Bytes.ofList?_eq_some_iff.mpr rfl

theorem holds_field {n : Nat} (fits : offset + n ≤ minLength) :
    Holds data offset (field data covered n offset fits).toList :=
  List.take_prefix n (data.drop offset)

theorem holds_write_field {α : Type} {width : Nat} {write : α → List UInt8}
    {read : List UInt8 → α} (hcodec : LittleEndian.Codec width write read)
    (fits : offset + width ≤ minLength) :
    Holds data offset (write (read (field data covered width offset fits).toList)) := by
  rw [hcodec.write_read (Bytes.length_toList _)]
  exact holds_field covered fits

theorem holds_byte (fits : offset < minLength) :
    Holds data offset [byte data covered offset fits] := by
  have hlt : offset < data.length := Nat.lt_of_lt_of_le fits covered
  rw [Holds, List.drop_eq_getElem_cons hlt]
  exact ⟨data.drop (offset + 1), rfl⟩

variable {covered}

theorem Holds.field_eq {n : Nat} {bytes : Bytes n} (hholds : Holds data offset bytes.toList)
    (fits : offset + n ≤ minLength) : field data covered n offset fits = bytes := by
  have htake := hholds.take_eq
  rw [Bytes.length_toList] at htake
  exact Bytes.ext htake

theorem Holds.read_field_eq {α : Type} {width : Nat} {write : α → List UInt8}
    {read : List UInt8 → α} (hcodec : LittleEndian.Codec width write read) {value : α}
    (hholds : Holds data offset (write value)) (fits : offset + width ≤ minLength) :
    read (field data covered width offset fits).toList = value := by
  have hfield : field data covered width offset fits = ⟨write value, hcodec.length_write value⟩ :=
    Holds.field_eq hholds fits
  rw [hfield, hcodec.read_write]

theorem Holds.byte_eq {value : UInt8} (hholds : Holds data offset [value])
    (fits : offset < minLength) : byte data covered offset fits = value := by
  have hlt : offset < data.length := Nat.lt_of_lt_of_le fits covered
  have htake := hholds.take_eq
  rw [List.drop_eq_getElem_cons hlt] at htake
  exact (List.cons.inj htake).1

end Reading

end Layout

namespace Snapshot

/-- Where each field begins and the bytes it is written as, in the order of the layout. -/
def fields (snapshot : Snapshot) (flag : UInt8) : List (Nat × List UInt8) :=
  [(Layout.version, [snapshot.version]),
   (Layout.bump, [snapshot.bump]),
   (Layout.issuer, snapshot.issuer.toList),
   (Layout.lockMint, snapshot.lockMint.toList),
   (Layout.rewardMint, snapshot.rewardMint.toList),
   (Layout.depositEscrow, snapshot.depositEscrow.toList),
   (Layout.rewardEscrow, snapshot.rewardEscrow.toList),
   (Layout.platformTreasury, snapshot.platformTreasury.toList),
   (Layout.reserve, LittleEndian.ofUInt128 snapshot.reserve),
   (Layout.start, LittleEndian.ofInt64 snapshot.start),
   (Layout.maturity, LittleEndian.ofInt64 snapshot.maturity),
   (Layout.claimWindow, LittleEndian.ofInt64 snapshot.claimWindow),
   (Layout.finalDay, LittleEndian.ofUInt64 snapshot.finalDay),
   (Layout.totalLocked, LittleEndian.ofUInt128 snapshot.totalLocked),
   (Layout.totalWeight, LittleEndian.ofUInt128 snapshot.totalWeight),
   (Layout.lastDay, LittleEndian.ofUInt64 snapshot.lastDay),
   (Layout.reserveFunded, [flag])]

/-- Every field stands in the data at its offset. -/
def StandsIn (snapshot : Snapshot) (flag : UInt8) (data : List UInt8) : Prop :=
  ∀ field ∈ snapshot.fields flag, Layout.Holds data field.1 field.2

theorem tiles_fields (snapshot : Snapshot) (flag : UInt8) :
    Layout.Tiles 0 (snapshot.fields flag) 283 := by
  simp [fields, Layout.Tiles, Layout.version, Layout.bump, Layout.issuer, Layout.lockMint,
    Layout.rewardMint, Layout.depositEscrow, Layout.rewardEscrow, Layout.platformTreasury,
    Layout.reserve, Layout.start, Layout.maturity, Layout.claimWindow, Layout.finalDay,
    Layout.totalLocked, Layout.totalWeight, Layout.lastDay, Layout.reserveFunded]

theorem pack_eq_flatMap_fields (snapshot : Snapshot) (flag : UInt8) :
    snapshot.pack flag = (snapshot.fields flag).flatMap Prod.snd := by
  simp [pack, packFields, fields]

theorem length_packFields (snapshot : Snapshot) : snapshot.packFields.length = 282 := by
  have hlength := snapshot.length_pack 0
  rw [pack, List.length_append] at hlength
  exact Nat.add_right_cancel hlength

/-- Writing at the offsets is writing one field after the other. -/
theorem standsIn_iff {snapshot : Snapshot} {flag : UInt8} {data : List UInt8} :
    snapshot.StandsIn flag data ↔ ∃ rest, data = snapshot.pack flag ++ rest := by
  rw [StandsIn, ← (tiles_fields snapshot flag).holds_flatMap_iff, Layout.holds_zero_iff,
    pack_eq_flatMap_fields]

variable {data : List UInt8}

/-- What has been read stands where it was read. -/
theorem standsIn_read (covered : Layout.minLength ≤ data.length) :
    (read data covered).StandsIn (Layout.byte data covered Layout.reserveFunded) data := by
  simp only [StandsIn, fields, read, List.forall_mem_cons]
  exact ⟨Layout.holds_byte covered _, Layout.holds_byte covered _,
    Layout.holds_field covered _, Layout.holds_field covered _, Layout.holds_field covered _,
    Layout.holds_field covered _, Layout.holds_field covered _, Layout.holds_field covered _,
    Layout.holds_write_field covered LittleEndian.codec_uint128 _,
    Layout.holds_write_field covered LittleEndian.codec_int64 _,
    Layout.holds_write_field covered LittleEndian.codec_int64 _,
    Layout.holds_write_field covered LittleEndian.codec_int64 _,
    Layout.holds_write_field covered LittleEndian.codec_uint64 _,
    Layout.holds_write_field covered LittleEndian.codec_uint128 _,
    Layout.holds_write_field covered LittleEndian.codec_uint128 _,
    Layout.holds_write_field covered LittleEndian.codec_uint64 _,
    Layout.holds_byte covered _, by simp⟩

/-- What stands at the offsets is read. -/
theorem StandsIn.read_eq {snapshot : Snapshot} {flag : UInt8}
    (hstands : snapshot.StandsIn flag data) (covered : Layout.minLength ≤ data.length) :
    read data covered = { snapshot with reserveFunded := flag != 0 } := by
  simp only [StandsIn, fields, List.forall_mem_cons] at hstands
  obtain ⟨hversion, hbump, hissuer, hlockMint, hrewardMint, hdepositEscrow, hrewardEscrow,
    hplatformTreasury, hreserve, hstart, hmaturity, hclaimWindow, hfinalDay, htotalLocked,
    htotalWeight, hlastDay, hflag, -⟩ := hstands
  rw [read, hversion.byte_eq, hbump.byte_eq, hissuer.field_eq, hlockMint.field_eq,
    hrewardMint.field_eq, hdepositEscrow.field_eq, hrewardEscrow.field_eq,
    hplatformTreasury.field_eq, hreserve.read_field_eq LittleEndian.codec_uint128,
    hstart.read_field_eq LittleEndian.codec_int64, hmaturity.read_field_eq LittleEndian.codec_int64,
    hclaimWindow.read_field_eq LittleEndian.codec_int64,
    hfinalDay.read_field_eq LittleEndian.codec_uint64,
    htotalLocked.read_field_eq LittleEndian.codec_uint128,
    htotalWeight.read_field_eq LittleEndian.codec_uint128,
    hlastDay.read_field_eq LittleEndian.codec_uint64, hflag.byte_eq]

theorem StandsIn.covered {snapshot : Snapshot} {flag : UInt8}
    (hstands : snapshot.StandsIn flag data) : Layout.minLength ≤ data.length := by
  obtain ⟨rest, rfl⟩ := standsIn_iff.mp hstands
  rw [List.length_append, length_pack]
  exact Nat.le_add_right _ _

theorem StandsIn.take_eq {snapshot : Snapshot} {flag : UInt8}
    (hstands : snapshot.StandsIn flag data) : data.take 282 = snapshot.packFields := by
  obtain ⟨rest, rfl⟩ := standsIn_iff.mp hstands
  rw [pack, List.append_assoc]
  exact List.take_left' snapshot.length_packFields

theorem StandsIn.flag_eq {snapshot : Snapshot} {flag : UInt8}
    (hstands : snapshot.StandsIn flag data) : data[282]? = some flag := by
  obtain ⟨rest, rfl⟩ := standsIn_iff.mp hstands
  rw [pack, List.append_assoc, ← snapshot.length_packFields,
    List.getElem?_append_right (Nat.le_refl _), Nat.sub_self]
  rfl

/-- The bytes before the flag tell snapshots apart, but for what the flag says. -/
theorem eq_of_packFields_eq {snapshot found : Snapshot}
    (hfields : snapshot.packFields = found.packFields)
    (hfunded : snapshot.reserveFunded = found.reserveFunded) : snapshot = found := by
  have hpack : found.pack 0 = snapshot.pack 0 ++ [] := by
    rw [List.append_nil, pack, pack, hfields]
  have hsnapshot : snapshot.StandsIn 0 (found.pack 0) := standsIn_iff.mpr ⟨[], hpack⟩
  have hfound : found.StandsIn 0 (found.pack 0) :=
    standsIn_iff.mpr ⟨[], (List.append_nil _).symm⟩
  have hread := hsnapshot.read_eq hsnapshot.covered
  rw [hfound.read_eq hsnapshot.covered] at hread
  cases snapshot
  cases found
  simp_all

/-- Reads every field for itself, and gives none where the data ends too soon. -/
def read? (data : List UInt8) : Option Snapshot := do
  let version ← data[Layout.version]?
  let bump ← data[Layout.bump]?
  let issuer ← Layout.field? data 32 Layout.issuer
  let lockMint ← Layout.field? data 32 Layout.lockMint
  let rewardMint ← Layout.field? data 32 Layout.rewardMint
  let depositEscrow ← Layout.field? data 32 Layout.depositEscrow
  let rewardEscrow ← Layout.field? data 32 Layout.rewardEscrow
  let platformTreasury ← Layout.field? data 32 Layout.platformTreasury
  let reserve ← Layout.field? data 16 Layout.reserve
  let start ← Layout.field? data 8 Layout.start
  let maturity ← Layout.field? data 8 Layout.maturity
  let claimWindow ← Layout.field? data 8 Layout.claimWindow
  let finalDay ← Layout.field? data 8 Layout.finalDay
  let totalLocked ← Layout.field? data 16 Layout.totalLocked
  let totalWeight ← Layout.field? data 16 Layout.totalWeight
  let lastDay ← Layout.field? data 8 Layout.lastDay
  let flag ← data[Layout.reserveFunded]?
  return {
    version, bump, issuer, lockMint, rewardMint, depositEscrow, rewardEscrow, platformTreasury
    reserve := LittleEndian.toUInt128 reserve.toList
    start := LittleEndian.toInt64 start.toList
    maturity := LittleEndian.toInt64 maturity.toList
    claimWindow := LittleEndian.toInt64 claimWindow.toList
    finalDay := LittleEndian.toUInt64 finalDay.toList
    totalLocked := LittleEndian.toUInt128 totalLocked.toList
    totalWeight := LittleEndian.toUInt128 totalWeight.toList
    lastDay := LittleEndian.toUInt64 lastDay.toList
    reserveFunded := flag != 0 }

theorem read?_eq_read (covered : Layout.minLength ≤ data.length) :
    read? data = some (read data covered) := by
  simp (disch := decide) only [read?, Layout.getElem?_eq_byte covered,
    Layout.field?_eq_field covered]
  rfl

theorem unpack_of_covered (covered : Layout.minLength ≤ data.length) :
    unpack data =
      if (read data covered).version = 1 then .ok (read data covered)
      else .error (.unsupportedVersion (read data covered).version 0) := by
  rw [unpack, dif_pos covered]
  rfl

/-- Why an account's data holds no snapshot.  The length is looked at before the version. -/
inductive Unreadable (data : List UInt8) : Failure → Prop
  | tooShort (hshort : data.length < 283) : Unreadable data (.dataTooShort 283 data.length)
  | otherVersion {version : UInt8} (hlong : 283 ≤ data.length) (hfirst : data[0]? = some version)
      (hversion : version ≠ 1) : Unreadable data (.unsupportedVersion version 0)

theorem unpack_eq_ok_iff {snapshot : Snapshot} :
    unpack data = .ok snapshot ↔
      snapshot.version = 1 ∧
        ∃ flag, snapshot.StandsIn flag data ∧ snapshot.reserveFunded = (flag != 0) := by
  constructor
  · intro hunpack
    by_cases covered : Layout.minLength ≤ data.length
    · rw [unpack_of_covered covered] at hunpack
      split at hunpack
      · rename_i hversion
        obtain rfl := Except.ok.inj hunpack
        exact ⟨hversion, _, standsIn_read covered, rfl⟩
      · exact nomatch hunpack
    · rw [unpack, dif_neg covered] at hunpack
      exact nomatch hunpack
  · rintro ⟨hversion, flag, hstands, hfunded⟩
    have hread := hstands.read_eq hstands.covered
    rw [← hfunded] at hread
    rw [unpack_of_covered hstands.covered, hread, if_pos hversion]

theorem unpack_eq_error_iff {failure : Failure} :
    unpack data = .error failure ↔ Unreadable data failure := by
  by_cases covered : Layout.minLength ≤ data.length
  · have hfits : Layout.version < Layout.minLength := by decide
    have hfirst : data[0]? = some (read data covered).version :=
      Layout.getElem?_eq_byte covered hfits
    rw [unpack_of_covered covered]
    constructor
    · intro hunpack
      split at hunpack
      · exact nomatch hunpack
      · rename_i hversion
        obtain rfl := Except.error.inj hunpack
        exact .otherVersion covered hfirst hversion
    · intro hunreadable
      cases hunreadable with
      | tooShort hshort => exact absurd covered (Nat.not_le.mpr hshort)
      | otherVersion hlong hother hversion =>
          obtain rfl := Option.some.inj (hfirst.symm.trans hother)
          rw [if_neg hversion]
  · rw [unpack, dif_neg covered]
    constructor
    · intro hunpack
      obtain rfl := Except.error.inj hunpack
      exact .tooShort (Nat.not_le.mp covered)
    · intro hunreadable
      cases hunreadable with
      | tooShort hshort => rfl
      | otherVersion hlong => exact absurd hlong covered

theorem bne_zero_eq_iff {flag last : UInt8} :
    (flag != 0) = (last != 0) ↔ (flag = 0 ↔ last = 0) := by
  rw [Bool.eq_iff_iff, bne_iff_ne, bne_iff_ne]
  exact Decidable.not_iff_not

/-- The bytes that count for reading: all before the flag, and whether the flag is zero. -/
theorem eq_iff_of_standsIn {other : List UInt8} {snapshot found : Snapshot} {flag last : UInt8}
    (hstands : snapshot.StandsIn flag data) (hfunded : snapshot.reserveFunded = (flag != 0))
    (hother : found.StandsIn last other) (hlast : found.reserveFunded = (last != 0)) :
    snapshot = found ↔
      data.take 282 = other.take 282 ∧ (data[282]? = some 0 ↔ other[282]? = some 0) := by
  rw [hstands.take_eq, hother.take_eq, hstands.flag_eq, hother.flag_eq, Option.some.injEq,
    Option.some.injEq, ← bne_zero_eq_iff, ← hfunded, ← hlast]
  constructor
  · rintro rfl
    exact ⟨rfl, rfl⟩
  · rintro ⟨hfields, hflags⟩
    exact eq_of_packFields_eq hfields hflags

/-- Reading a snapshot undoes writing its fields at the offsets of the layout, and is refused only
for data that is too short or of another version. -/
theorem layout_exact :
    (∀ (snapshot : Snapshot) flag, Layout.Tiles 0 (snapshot.fields flag) 283 ∧
      ∀ data, snapshot.StandsIn flag data ↔ ∃ rest, data = snapshot.pack flag ++ rest) ∧
    (∀ data failure, unpack data = .error failure ↔ Unreadable data failure) ∧
    (∀ (snapshot : Snapshot) flag rest, snapshot.version = 1 →
      unpack (snapshot.pack flag ++ rest) = .ok { snapshot with reserveFunded := flag != 0 }) ∧
    (∀ data snapshot, unpack data = .ok snapshot →
      snapshot.version = 1 ∧ (∀ flag, (snapshot.pack flag).take 282 = data.take 282) ∧
      ∃ flag, data[282]? = some flag ∧ snapshot.reserveFunded = (flag != 0)) ∧
    (∀ data other snapshot found, unpack data = .ok snapshot → unpack other = .ok found →
      (snapshot = found ↔
        data.take 282 = other.take 282 ∧ (data[282]? = some 0 ↔ other[282]? = some 0))) ∧
    ∀ data, 283 ≤ data.length → ∃ snapshot, read? data = some snapshot ∧
      unpack data =
        if snapshot.version = 1 then .ok snapshot
        else .error (.unsupportedVersion snapshot.version 0) := by
  refine ⟨fun snapshot flag => ⟨tiles_fields snapshot flag, fun data => standsIn_iff⟩,
    fun data failure => unpack_eq_error_iff, ?_, ?_, ?_, ?_⟩
  · intro snapshot flag rest hversion
    have hstands : snapshot.StandsIn flag (snapshot.pack flag ++ rest) :=
      standsIn_iff.mpr ⟨rest, rfl⟩
    rw [unpack_of_covered hstands.covered, hstands.read_eq hstands.covered, if_pos hversion]
  · intro data snapshot hunpack
    obtain ⟨hversion, flag, hstands, hfunded⟩ := unpack_eq_ok_iff.mp hunpack
    refine ⟨hversion, fun other => ?_, flag, hstands.flag_eq, hfunded⟩
    rw [hstands.take_eq]
    exact List.take_left' snapshot.length_packFields
  · intro data other snapshot found hunpack hother
    obtain ⟨-, flag, hstands, hfunded⟩ := unpack_eq_ok_iff.mp hunpack
    obtain ⟨-, last, hfound, hlast⟩ := unpack_eq_ok_iff.mp hother
    exact eq_iff_of_standsIn hstands hfunded hfound hlast
  · intro data covered
    exact ⟨_, read?_eq_read covered, unpack_of_covered covered⟩

def fundedSnapshot : Snapshot :=
  { version := 1, bump := 254, issuer := Bytes.zero 32, lockMint := Bytes.zero 32
    rewardMint := Bytes.zero 32, depositEscrow := Bytes.zero 32, rewardEscrow := Bytes.zero 32
    platformTreasury := Bytes.zero 32, reserve := BitVec.allOnes 128, start := -1, maturity := 1
    claimWindow := 1, finalDay := 30, totalLocked := 0, totalWeight := 0, lastDay := 0
    reserveFunded := true }

/-- Accounts that differ in a flag that is not zero, and behind it, hold the same snapshot. -/
theorem layout_exact_funded :
    unpack (fundedSnapshot.pack 1 ++ []) = .ok fundedSnapshot ∧
      unpack (fundedSnapshot.pack 255 ++ [7]) = .ok fundedSnapshot ∧
      (fundedSnapshot.pack 1 ++ []).take 282 = (fundedSnapshot.pack 255 ++ [7]).take 282 ∧
      (∃ flag, (fundedSnapshot.pack 255 ++ [7])[282]? = some flag ∧ true = (flag != 0)) ∧
      283 ≤ (fundedSnapshot.pack 255).length ∧
      ∃ found, read? (fundedSnapshot.pack 255) = some found := by
  obtain ⟨-, -, hwritten, hreads, hequal, hread⟩ := layout_exact
  have hone := hwritten fundedSnapshot 1 [] rfl
  have hfull := hwritten fundedSnapshot 255 [7] rfl
  have hlength : 283 ≤ (fundedSnapshot.pack 255).length :=
    Nat.le_of_eq (fundedSnapshot.length_pack 255).symm
  obtain ⟨found, hfound, -⟩ := hread _ hlength
  exact ⟨hone, hfull, ((hequal _ _ _ _ hone hfull).mp rfl).1, (hreads _ _ hfull).2.2, hlength,
    found, hfound⟩

end Snapshot

end IssuanceClient
