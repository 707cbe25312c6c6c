import IssuanceClient.Connection.Scripted
import IssuanceClient.Fetch
import IssuanceClient.Proofs.AddressCollision
import IssuanceClient.Proofs.CurveMembership
import IssuanceClient.Proofs.DraftInputs
import IssuanceClient.Proofs.DraftInstruction
import IssuanceClient.Proofs.Outcome
import IssuanceClient.Proofs.SnapshotLayout

/-!
Looking an issuance up by its address.  Its issuer, start and reserve are written down three times:
as seeds of the address, in the payload that creates the issuance, and in its account.  The three
agree, so an account that was made for a handle leads back to the same handle, and to no other one.
-/

namespace IssuanceClient

namespace Run

variable {α β : Type} {timeline : Timeline}

theorem fst_bind_eq_ok_iff {run : Run α} {next : α → Run β} {result : β} :
    ((run >>= next) timeline).1 = .ok result ↔
      ∃ value, (run timeline).1 = .ok value ∧ (next value (run timeline).2).1 = .ok result := by
  have hbind : ((run >>= next) timeline).1 =
      (run timeline).1 >>= fun value => (next value (run timeline).2).1 := by
    rw [bind_apply]
    rcases run timeline with ⟨stop | value, after⟩
    · rfl
    · rfl
  rw [hbind, Except.bind_eq_ok_iff]

theorem fst_pure_eq_ok_iff {value result : α} :
    ((pure value : Run α) timeline).1 = .ok result ↔ value = result := by
  rw [pure_apply, Except.ok.injEq]

theorem fst_fail_ne_ok {failure : Failure} {result : α} :
    ((fail failure : Run α) timeline).1 ≠ .ok result :=
  fun h => (nomatch h)

theorem fst_ofExcept_eq_ok_iff {outcome : Except Failure α} {result : α} :
    (ofExcept outcome timeline).1 = .ok result ↔ outcome = .ok result := by
  have houtcome : (ofExcept outcome timeline).1 = outcome.mapError .failed := by
    cases outcome <;> rfl
  rw [houtcome, Except.mapError_eq_ok_iff]

theorem fst_ask_eq_ok_iff {call : Call} {answer : List TimedCall → Reply α} {result : α} :
    (ask call answer timeline).1 = .ok result ↔
      (answer timeline.calls).outcome = .ok result := by
  rw [ask_apply, Except.mapError_eq_ok_iff]

end Run

namespace Connection

variable {connection : Connection} {address : Key} {timeline : Timeline}

theorem fetchAccount_eq_ok_iff {account : Account} :
    (connection.fetchAccount address timeline).1 = .ok account ↔
      (connection.account timeline.calls address).outcome = .ok (some account) := by
  rw [fetchAccount, Run.fst_bind_eq_ok_iff]
  constructor
  · rintro ⟨found, hfound, hresult⟩
    cases found with
    | none => exact absurd hresult Run.fst_fail_ne_ok
    | some found =>
        obtain rfl := Run.fst_pure_eq_ok_iff.mp hresult
        exact Run.fst_ask_eq_ok_iff.mp hfound
  · intro haccount
    exact ⟨some account, Run.fst_ask_eq_ok_iff.mpr haccount, Run.fst_pure_eq_ok_iff.mpr rfl⟩

/-- An issuance is found where an account's data holds a snapshot. -/
theorem fetchIssuance_eq_ok_iff {found : IssuanceAccount} :
    (connection.fetchIssuance address timeline).1 = .ok found ↔
      ∃ account snapshot,
        (connection.account timeline.calls address).outcome = .ok (some account) ∧
        Snapshot.unpack account.data = .ok snapshot ∧
        ⟨address, account.owner, account.lamports, snapshot⟩ = found := by
  rw [fetchIssuance, Run.fst_bind_eq_ok_iff]
  constructor
  · rintro ⟨account, haccount, hresult⟩
    obtain ⟨snapshot, hsnapshot, hfound⟩ := Run.fst_bind_eq_ok_iff.mp hresult
    exact ⟨account, snapshot, fetchAccount_eq_ok_iff.mp haccount,
      Run.fst_ofExcept_eq_ok_iff.mp hsnapshot, Run.fst_pure_eq_ok_iff.mp hfound⟩
  · rintro ⟨account, snapshot, haccount, hsnapshot, hfound⟩
    exact ⟨account, fetchAccount_eq_ok_iff.mpr haccount, Run.fst_bind_eq_ok_iff.mpr
      ⟨snapshot, Run.fst_ofExcept_eq_ok_iff.mpr hsnapshot, Run.fst_pure_eq_ok_iff.mpr hfound⟩⟩

end Connection

namespace Issuance

variable {program issuer : Key} {start : Int64} {reserve : UInt128} {handle : Issuance}

theorem derive_eq_ok_iff :
    derive program issuer start reserve = .ok handle ↔
      Address.issuance program issuer start reserve = .ok ⟨handle.address, handle.bump⟩ ∧
        handle.program = program ∧ handle.issuer = issuer ∧ handle.start = start ∧
        handle.reserve = reserve := by
  rw [derive, Except.bind_eq_ok_iff]
  constructor
  · rintro ⟨derived, hderived, hhandle⟩
    obtain rfl := Except.pure_eq_ok_iff.mp hhandle
    exact ⟨hderived, rfl, rfl, rfl, rfl⟩
  · rintro ⟨hderived, rfl, rfl, rfl, rfl⟩
    exact ⟨_, hderived, rfl⟩

/-- A look-up succeeds exactly if the snapshot at the address has the seeds of the address. -/
theorem fetchAt_eq_ok_iff {connection : Connection} {address : Key} {timeline : Timeline}
    {found : IssuanceAccount} :
    (fetchAt connection program address timeline).1 = .ok (handle, found) ↔
      (connection.fetchIssuance address timeline).1 = .ok found ∧
        derive program found.snapshot.issuer found.snapshot.start found.snapshot.reserve =
          .ok handle ∧
        handle.address = address := by
  rw [fetchAt, Run.fst_bind_eq_ok_iff]
  constructor
  · rintro ⟨account, haccount, hresult⟩
    obtain ⟨issuance, hissuance, hchecked⟩ := Run.fst_bind_eq_ok_iff.mp hresult
    by_cases haddress : issuance.address = address
    · rw [if_pos haddress, Run.fst_pure_eq_ok_iff, Prod.mk.injEq] at hchecked
      obtain ⟨rfl, rfl⟩ := hchecked
      exact ⟨haccount, Run.fst_ofExcept_eq_ok_iff.mp hissuance, haddress⟩
    · rw [if_neg haddress] at hchecked
      exact absurd hchecked Run.fst_fail_ne_ok
  · rintro ⟨hfound, hderive, haddress⟩
    refine ⟨found, hfound, Run.fst_bind_eq_ok_iff.mpr
      ⟨handle, Run.fst_ofExcept_eq_ok_iff.mpr hderive, ?_⟩⟩
    rw [if_pos haddress, Run.fst_pure_eq_ok_iff]

end Issuance

/-- What was put at an address is read there. -/
theorem Script.account_put (script : Script) (ledger : Ledger) (address : Key)
    (entry : Except Failure Account) (calls : List TimedCall) :
    ((script.connection (ledger.put address entry)).account calls address).outcome =
      some <$> entry := by
  simp only [connection, Ledger.read, Ledger.put, List.find?_cons, decide_true]

namespace Payload

variable (reserve : UInt128) (start maturity : Int64)

theorem extract_pack_reserve :
    (initIssuance reserve start maturity).pack.extract 1 17 = LittleEndian.ofUInt128 reserve := by
  simp [pack, List.extract_eq_take_drop]

theorem extract_pack_start :
    (initIssuance reserve start maturity).pack.extract 17 25 = LittleEndian.ofInt64 start := by
  simp [pack, List.extract_eq_take_drop]

end Payload

/-- The data of an account that an instruction has made: the issuer, the reserve and the start stand
where a snapshot has them, as the instruction gives them.  The rest may be anything. -/
structure Instruction.Initialises (instruction : Instruction) (data : List UInt8) : Prop where
  length : 283 ≤ data.length
  version : data[0]? = some 1
  issuer : ∃ payer, instruction.accounts[0]? = some payer ∧ data.extract 2 34 = payer.key.toList
  reserve : data.extract 194 210 = instruction.data.extract 1 17
  start : data.extract 210 218 = instruction.data.extract 17 25

theorem Layout.holds_of_extract {data bytes : List UInt8} {offset stop : Nat}
    (hextract : data.extract offset stop = bytes) : Holds data offset bytes := by
  rw [Holds, ← hextract, List.extract_eq_take_drop]
  exact List.take_prefix _ _

namespace Issuance

/-- The seeds of a handle are found in an account that its own instruction has made. -/
theorem exists_snapshot_of_initialises {handle : Issuance} {supplies : List InitDraft.Supply}
    {instruction : Instruction} {data : List UInt8}
    (hinstruction : ((Plan.initIssuance supplies).draft handle).instruction = .ok instruction)
    (hdata : instruction.Initialises data) :
    ∃ snapshot, Snapshot.unpack data = .ok snapshot ∧ snapshot.issuer = handle.issuer ∧
      snapshot.start = handle.start ∧ snapshot.reserve = handle.reserve := by
  obtain ⟨maturity, -, accounts, hcompletes, rfl⟩ :=
    InitDraft.instruction_eq_ok_iff.mp hinstruction
  have hpayer := hcompletes.payer
  rw [InitDraft.issuance_foldl] at hdata hpayer
  have covered : Layout.minLength ≤ data.length := hdata.length
  have hversion : (Snapshot.read data covered).version = 1 := by
    have hfits : Layout.version < Layout.minLength := by decide
    exact Option.some.inj ((Layout.getElem?_eq_byte covered hfits).symm.trans hdata.version)
  -- The seeds of the handle went into the instruction, and from there into the account.
  have hissuer : Layout.Holds data Layout.issuer handle.issuer.toList := by
    obtain ⟨payer, hfirst, hkey⟩ := hdata.issuer
    obtain rfl := Option.some.inj hfirst
    rw [hpayer]
    exact Layout.holds_of_extract hkey
  have hreserve : Layout.Holds data Layout.reserve (LittleEndian.ofUInt128 handle.reserve) :=
    Layout.holds_of_extract (hdata.reserve.trans (Payload.extract_pack_reserve _ _ _))
  have hstart : Layout.Holds data Layout.start (LittleEndian.ofInt64 handle.start) :=
    Layout.holds_of_extract (hdata.start.trans (Payload.extract_pack_start _ _ _))
  refine ⟨Snapshot.read data covered, ?_, ?_, ?_, ?_⟩
  · rw [Snapshot.unpack_of_covered covered, if_pos hversion]
  · simp only [Snapshot.read, hissuer.field_eq]
  · simp only [Snapshot.read, hstart.read_field_eq LittleEndian.codec_int64]
  · simp only [Snapshot.read, hreserve.read_field_eq LittleEndian.codec_uint128]

/-- An issuance that its own instruction has created is found again as the same handle, whatever
else its account holds; and whatever is found at an address has the seeds of that address. -/
theorem fetchAt_finds_handle :
    (∀ {program issuer : Key} {start : Int64} {reserve : UInt128} {handle : Issuance}
        {supplies : List InitDraft.Supply} {instruction : Instruction} {account : Account},
      derive program issuer start reserve = .ok handle →
      ((Plan.initIssuance supplies).draft handle).instruction = .ok instruction →
      instruction.Initialises account.data →
      ∃ found : IssuanceAccount,
        (found.address = handle.address ∧ found.owner = account.owner ∧
          found.lamports = account.lamports) ∧
        Snapshot.unpack account.data = .ok found.snapshot ∧
        (found.snapshot.issuer = issuer ∧ found.snapshot.start = start ∧
          found.snapshot.reserve = reserve) ∧
        ∀ (connection : Connection) (timeline : Timeline),
          (connection.account timeline.calls handle.address).outcome = .ok (some account) →
          (fetchAt connection program handle.address timeline).1 = .ok (handle, found) ∧
            (handle.fetch connection timeline).1 = .ok found) ∧
    ∀ {connection : Connection} {program address : Key} {timeline : Timeline} {handle : Issuance}
        {found : IssuanceAccount},
      (fetchAt connection program address timeline).1 = .ok (handle, found) →
      handle.address = address ∧
        derive program found.snapshot.issuer found.snapshot.start found.snapshot.reserve =
          .ok handle := by
  constructor
  · intro program issuer start reserve handle supplies instruction account hderive hinstruction
      hdata
    obtain ⟨snapshot, hunpack, hissuer, hstart, hreserve⟩ :=
      exists_snapshot_of_initialises hinstruction hdata
    obtain ⟨-, -, rfl, rfl, rfl⟩ := derive_eq_ok_iff.mp hderive
    refine ⟨⟨handle.address, account.owner, account.lamports, snapshot⟩, ⟨rfl, rfl, rfl⟩, hunpack,
      ⟨hissuer, hstart, hreserve⟩, fun connection timeline haccount => ?_⟩
    have hfetch :=
      Connection.fetchIssuance_eq_ok_iff.mpr ⟨account, snapshot, haccount, hunpack, rfl⟩
    refine ⟨fetchAt_eq_ok_iff.mpr ⟨hfetch, ?_, rfl⟩, hfetch⟩
    rw [hissuer, hstart, hreserve]
    exact hderive
  · intro connection program address timeline handle found hfound
    obtain ⟨-, hderive, haddress⟩ := fetchAt_eq_ok_iff.mp hfound
    exact ⟨haddress, hderive⟩

/-- The handle that the seeds of the funded snapshot give under a program. -/
def funded : Issuance where
  program := ⟨List.replicate 32 6, rfl⟩
  address := Address.candidate
    (Address.issuanceSeeds (Bytes.zero 32) (-1) (BitVec.allOnes 128)) ⟨List.replicate 32 6, rfl⟩ 255
  bump := 255
  issuer := Bytes.zero 32
  start := -1
  reserve := BitVec.allOnes 128

theorem derive_funded :
    derive funded.program funded.issuer funded.start funded.reserve = .ok funded := by
  refine derive_eq_ok_iff.mpr ⟨?_, rfl, rfl, rfl, rfl⟩
  refine (Recipe.issuance funded.program funded.issuer funded.start funded.reserve).derive_of_first
    ?_
  rw [Ed25519.isPoint_eq_powerWithin]
  decide +kernel

def fundedSupplies : List InitDraft.Supply :=
  [.maturity 1, .lockMint (Bytes.zero 32), .rewardMint (Bytes.zero 32),
   .depositEscrow (Bytes.zero 32), .rewardEscrow (Bytes.zero 32),
   .platformTreasury (Bytes.zero 32)]

def fundedAccount : Account where
  lamports := 1
  owner := funded.program
  data := Snapshot.fundedSnapshot.pack 1
  executable := false
  rentEpoch := 0

def fundedConnection : Connection :=
  ({} : Script).connection (Ledger.put [] funded.address (.ok fundedAccount))

/-- A start before the epoch and the largest reserve are found again. -/
theorem fetchAt_finds_funded :
    ∃ instruction found,
      derive funded.program funded.issuer funded.start funded.reserve = .ok funded ∧
      ((Plan.initIssuance fundedSupplies).draft funded).instruction = .ok instruction ∧
      instruction.Initialises fundedAccount.data ∧
      (fetchAt fundedConnection funded.program funded.address {}).1 = .ok (funded, found) ∧
      (funded.fetch fundedConnection {}).1 = .ok found ∧
      found.snapshot.issuer = funded.issuer ∧
      derive funded.program found.snapshot.issuer found.snapshot.start found.snapshot.reserve =
        .ok funded := by
  have hinstruction : ((Plan.initIssuance fundedSupplies).draft funded).instruction = .ok
      (Instruction.initIssuance funded.program ⟨funded.issuer, funded.address, Bytes.zero 32,
        Bytes.zero 32, Bytes.zero 32, Bytes.zero 32, Bytes.zero 32⟩ funded.reserve funded.start
        1) := rfl
  have hdata : (Instruction.initIssuance funded.program ⟨funded.issuer, funded.address,
      Bytes.zero 32, Bytes.zero 32, Bytes.zero 32, Bytes.zero 32, Bytes.zero 32⟩ funded.reserve
      funded.start 1).Initialises fundedAccount.data :=
    ⟨Nat.le_of_eq (Snapshot.fundedSnapshot.length_pack 1).symm, by decide, ⟨_, rfl, by decide⟩,
      by decide, by decide⟩
  obtain ⟨hfinds, hfound⟩ := fetchAt_finds_handle
  obtain ⟨found, -, -, ⟨hissuer, -, -⟩, hlookup⟩ := hfinds derive_funded hinstruction hdata
  have hstored : (fundedConnection.account [] funded.address).outcome =
      .ok (some fundedAccount) := by
    rw [fundedConnection, Script.account_put]
    rfl
  obtain ⟨hat, hfetch⟩ := hlookup fundedConnection {} hstored
  exact ⟨_, found, derive_funded, hinstruction, hdata, hat, hfetch, hissuer, (hfound hat).2⟩

end Issuance

end IssuanceClient
