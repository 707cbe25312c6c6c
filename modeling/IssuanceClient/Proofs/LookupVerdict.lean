import IssuanceClient.Proofs.InstructionAddresses

/-!
What a look-up comes to.  It asks for one account and then decides by itself, in a fixed order: by
the reply, by the account's data, and by the address that the seeds in the data give.  Of the data
only the version and the seeds count, so accounts that agree in these are accepted alike.
-/

namespace IssuanceClient

namespace Run

variable {α β : Type} {run : Run α} {start after : Timeline}

/-- A run makes one call and has, once the reply has come, the only result that its verdict on the
reply allows. -/
structure Decides (run : Run α) (start : Timeline) (call : Call) (reply : Reply β)
    (verdict : Except Failure β → Except Failure α → Prop) : Prop where
  calls : (run start).2.calls = start.calls ++ [⟨start.now, call⟩]
  now : (run start).2.now = start.now + reply.delay
  result : ∃ result, (run start).1 = result.mapError .failed ∧
    ∀ other, verdict reply.outcome other ↔ other = result

theorem decides_of_eq {call : Call} {reply : Reply β}
    {verdict : Except Failure β → Except Failure α → Prop} {result : Except Failure α}
    (hrun : run start = (result.mapError .failed, (start.record call).receive reply.delay))
    (hverdict : verdict reply.outcome result)
    (hunique : ∀ other, verdict reply.outcome other → other = result) :
    run.Decides start call reply verdict := by
  constructor
  · rw [hrun, Timeline.calls_receive]
    rfl
  · rw [hrun, Timeline.now_receive]
    rfl
  · refine ⟨result, by rw [hrun], fun other => ⟨hunique other, ?_⟩⟩
    rintro rfl
    exact hverdict

/-- After a run that has come to an outcome, only the outcome counts. -/
theorem bind_of_eq {outcome : Except Failure α}
    (hrun : run start = (outcome.mapError .failed, after)) (next : α → Run β) :
    (run >>= next) start = (ofExcept outcome >>= next) after := by
  rw [bind_apply, hrun, ofExcept_bind_apply]
  cases outcome <;> rfl

end Run

namespace Connection

/-- What a reply says of the issuance at an address. -/
inductive Reads (address : Key) :
    Except Failure (Option Account) → Except Failure IssuanceAccount → Prop
  | unanswered (failure : Failure) : Reads address (.error failure) (.error failure)
  | absent : Reads address (.ok none) (.error (.accountNotFound address))
  | unreadable {account : Account} {failure : Failure}
      (hdata : Snapshot.Unreadable account.data failure) :
      Reads address (.ok (some account)) (.error failure)
  | read {account : Account} {snapshot : Snapshot}
      (hdata : Snapshot.unpack account.data = .ok snapshot) :
      Reads address (.ok (some account))
        (.ok ⟨address, account.owner, account.lamports, snapshot⟩)

theorem Reads.unique {address : Key} {outcome : Except Failure (Option Account)}
    {found other : Except Failure IssuanceAccount} (hfound : Reads address outcome found)
    (hother : Reads address outcome other) : other = found := by
  cases hfound with
  | unanswered failure =>
      cases hother
      rfl
  | absent =>
      cases hother
      rfl
  | unreadable hdata =>
      have hunpack := Snapshot.unpack_eq_error_iff.mpr hdata
      cases hother with
      | unreadable hagain =>
          have hsame := hunpack.symm.trans (Snapshot.unpack_eq_error_iff.mpr hagain)
          rw [Except.error.inj hsame]
      | read hread => exact nomatch hunpack.symm.trans hread
  | read hdata =>
      cases hother with
      | unreadable hagain =>
          exact nomatch hdata.symm.trans (Snapshot.unpack_eq_error_iff.mpr hagain)
      | read hagain => rw [Except.ok.inj (hdata.symm.trans hagain)]

/-- What is at an address, which must not be empty. -/
def holding (address : Key) : Except Failure (Option Account) → Except Failure Account
  | .error failure => .error failure
  | .ok none => .error (.accountNotFound address)
  | .ok (some account) => .ok account

theorem fetchAccount_apply (connection : Connection) (address : Key) (timeline : Timeline) :
    connection.fetchAccount address timeline =
      ((holding address (connection.account timeline.calls address).outcome).mapError .failed,
        (timeline.record (.account address)).receive
          (connection.account timeline.calls address).delay) := by
  rw [fetchAccount, getAccount, Run.ask_bind_apply]
  rcases (connection.account timeline.calls address).outcome with failure | _ | account <;> rfl

theorem exists_reads (connection : Connection) (address : Key) (timeline : Timeline) :
    ∃ found, Reads address (connection.account timeline.calls address).outcome found ∧
      connection.fetchIssuance address timeline =
        (found.mapError .failed, (timeline.record (.account address)).receive
          (connection.account timeline.calls address).delay) := by
  rw [fetchIssuance, Run.bind_of_eq (fetchAccount_apply connection address timeline),
    Run.ofExcept_bind_apply]
  rcases (connection.account timeline.calls address).outcome with failure | _ | account
  · exact ⟨_, .unanswered failure, rfl⟩
  · exact ⟨_, .absent, rfl⟩
  · simp only [holding, Run.ofExcept_bind_apply]
    cases hunpack : Snapshot.unpack account.data with
    | error failure => exact ⟨_, .unreadable (Snapshot.unpack_eq_error_iff.mp hunpack), rfl⟩
    | ok snapshot => exact ⟨_, .read hunpack, rfl⟩

theorem fetchIssuance_decides (connection : Connection) (address : Key) (timeline : Timeline) :
    (connection.fetchIssuance address).Decides timeline (.account address)
      (connection.account timeline.calls address) (Reads address) := by
  obtain ⟨found, hreads, hrun⟩ := exists_reads connection address timeline
  exact Run.decides_of_eq hrun hreads fun _ hother => hreads.unique hother

end Connection

namespace Issuance

/-- The handle that the seeds in a snapshot give under a program. -/
def rederive (program : Key) (found : IssuanceAccount) : Except Failure Issuance :=
  derive program found.snapshot.issuer found.snapshot.start found.snapshot.reserve

/-- What the check against its own seeds makes of what was read at an address. -/
inductive Checks (program address : Key) :
    Except Failure IssuanceAccount → Except Failure (Issuance × IssuanceAccount) → Prop
  | unread (failure : Failure) : Checks program address (.error failure) (.error failure)
  | underived {found : IssuanceAccount} {failure : Failure}
      (hderive : rederive program found = .error failure) :
      Checks program address (.ok found) (.error failure)
  | foreign {found : IssuanceAccount} {handle : Issuance}
      (hderive : rederive program found = .ok handle) (hother : handle.address ≠ address) :
      Checks program address (.ok found)
        (.error (.configuration (.seedMismatch address program handle.address)))
  | own {found : IssuanceAccount} {handle : Issuance}
      (hderive : rederive program found = .ok handle) (hown : handle.address = address) :
      Checks program address (.ok found) (.ok (handle, found))

/-- What a reply comes to when it is read and checked. -/
def Verdict (program address : Key) (outcome : Except Failure (Option Account))
    (result : Except Failure (Issuance × IssuanceAccount)) : Prop :=
  ∃ found, Connection.Reads address outcome found ∧ Checks program address found result

theorem Checks.unique {program address : Key} {found : Except Failure IssuanceAccount}
    {result other : Except Failure (Issuance × IssuanceAccount)}
    (hresult : Checks program address found result) (hother : Checks program address found other) :
    other = result := by
  cases hresult with
  | unread failure =>
      cases hother
      rfl
  | underived hderive =>
      cases hother with
      | underived hagain => rw [Except.error.inj (hderive.symm.trans hagain)]
      | foreign hagain => exact nomatch hderive.symm.trans hagain
      | own hagain => exact nomatch hderive.symm.trans hagain
  | foreign hderive hne =>
      cases hother with
      | underived hagain => exact nomatch hderive.symm.trans hagain
      | foreign hagain => rw [Except.ok.inj (hderive.symm.trans hagain)]
      | own hagain hown =>
          obtain rfl := Except.ok.inj (hderive.symm.trans hagain)
          exact absurd hown hne
  | own hderive hown =>
      cases hother with
      | underived hagain => exact nomatch hderive.symm.trans hagain
      | foreign hagain hne =>
          obtain rfl := Except.ok.inj (hderive.symm.trans hagain)
          exact absurd hown hne
      | own hagain => rw [Except.ok.inj (hderive.symm.trans hagain)]

theorem exists_checks (connection : Connection) (program address : Key) (timeline : Timeline) :
    ∃ found result,
      Connection.Reads address (connection.account timeline.calls address).outcome found ∧
      Checks program address found result ∧
      fetchAt connection program address timeline =
        (result.mapError .failed, (timeline.record (.account address)).receive
          (connection.account timeline.calls address).delay) := by
  obtain ⟨found, hreads, hrun⟩ := connection.exists_reads address timeline
  refine ⟨found, ?_⟩
  rw [fetchAt, Run.bind_of_eq hrun, Run.ofExcept_bind_apply]
  cases found with
  | error failure => exact ⟨_, hreads, .unread failure, rfl⟩
  | ok account =>
      simp only [Run.ofExcept_bind_apply]
      rw [← rederive]
      cases hderive : rederive program account with
      | error failure => exact ⟨_, hreads, .underived hderive, rfl⟩
      | ok handle =>
          dsimp only
          by_cases hown : handle.address = address
          · rw [if_pos hown]
            exact ⟨_, hreads, .own hderive hown, rfl⟩
          · rw [if_neg hown]
            exact ⟨_, hreads, .foreign hderive hown, rfl⟩

theorem fetchAt_decides (connection : Connection) (program address : Key) (timeline : Timeline) :
    (fetchAt connection program address).Decides timeline (.account address)
      (connection.account timeline.calls address) (Verdict program address) := by
  obtain ⟨found, result, hreads, hchecks, hrun⟩ := exists_checks connection program address timeline
  refine Run.decides_of_eq hrun ⟨found, hreads, hchecks⟩ ?_
  rintro other ⟨again, hagain, hother⟩
  rw [hreads.unique hagain] at hother
  exact hchecks.unique hother

end Issuance

section SameSeeds

variable {data other : List UInt8}

/-- Data that agrees in all that a look-up decides by: whether it is long enough, the version, and
the three seeds. -/
structure Snapshot.SameSeeds (data other : List UInt8) : Prop where
  covered : 283 ≤ data.length ↔ 283 ≤ other.length
  version : data[0]? = other[0]?
  issuer : data.extract 2 34 = other.extract 2 34
  reserve : data.extract 194 210 = other.extract 194 210
  start : data.extract 210 218 = other.extract 210 218

theorem Snapshot.SameSeeds.symm (hsame : SameSeeds data other) : SameSeeds other data :=
  ⟨hsame.covered.symm, hsame.version.symm, hsame.issuer.symm, hsame.reserve.symm, hsame.start.symm⟩

theorem Layout.field_congr (n offset : Nat) (fits : offset + n ≤ minLength)
    (covered : minLength ≤ data.length) (covers : minLength ≤ other.length)
    (hextract : data.extract offset (offset + n) = other.extract offset (offset + n)) :
    field data covered n offset fits = field other covers n offset fits := by
  rw [List.extract_eq_take_drop, List.extract_eq_take_drop, Nat.add_sub_cancel_left] at hextract
  exact Bytes.ext hextract

theorem Layout.byte_congr (offset : Nat) (fits : offset < minLength)
    (covered : minLength ≤ data.length) (covers : minLength ≤ other.length)
    (hbyte : data[offset]? = other[offset]?) :
    byte data covered offset fits = byte other covers offset fits := by
  rw [getElem?_eq_byte covered fits, getElem?_eq_byte covers fits] at hbyte
  exact Option.some.inj hbyte

/-- Data with the same seeds holds a snapshot with the same seeds, or none as well. -/
theorem Snapshot.SameSeeds.exists_unpack_eq (hsame : SameSeeds data other) {snapshot : Snapshot}
    (hunpack : unpack data = .ok snapshot) :
    ∃ found, unpack other = .ok found ∧ found.issuer = snapshot.issuer ∧
      found.start = snapshot.start ∧ found.reserve = snapshot.reserve := by
  obtain ⟨hversion, _, hstands, _⟩ := unpack_eq_ok_iff.mp hunpack
  have covered : Layout.minLength ≤ data.length := hstands.covered
  have covers : Layout.minLength ≤ other.length := hsame.covered.mp covered
  rw [unpack_of_covered covered] at hunpack
  split at hunpack
  · obtain rfl := Except.ok.inj hunpack
    have hother : (read other covers).version = 1 := by
      have hbyte := Layout.byte_congr 0 (by decide) covered covers hsame.version
      exact hbyte.symm.trans hversion
    have hissuer := Layout.field_congr 32 2 (by decide) covered covers hsame.issuer
    have hstart := Layout.field_congr 8 210 (by decide) covered covers hsame.start
    have hreserve := Layout.field_congr 16 194 (by decide) covered covers hsame.reserve
    refine ⟨read other covers, ?_, hissuer.symm, ?_, ?_⟩
    · rw [unpack_of_covered covers, if_pos hother]
    · exact congrArg (fun bytes => LittleEndian.toInt64 bytes.toList) hstart.symm
    · exact congrArg (fun bytes => LittleEndian.toUInt128 bytes.toList) hreserve.symm
  · cases hunpack

end SameSeeds

namespace Issuance

theorem accepts_of_sameSeeds {connection other : Connection} {timeline later : Timeline}
    {program address : Key} {account replaced : Account} {handle : Issuance}
    (haccount : (connection.account timeline.calls address).outcome = .ok (some account))
    (hreplaced : (other.account later.calls address).outcome = .ok (some replaced))
    (hsame : Snapshot.SameSeeds account.data replaced.data)
    (hfound : ∃ found, (fetchAt connection program address timeline).1 = .ok (handle, found)) :
    ∃ found, (fetchAt other program address later).1 = .ok (handle, found) := by
  obtain ⟨found, hfound⟩ := hfound
  obtain ⟨hfetch, hderive, haddress⟩ := fetchAt_eq_ok_iff.mp hfound
  obtain ⟨stored, snapshot, hstored, hunpack, rfl⟩ :=
    Connection.fetchIssuance_eq_ok_iff.mp hfetch
  obtain rfl : account = stored := by
    rw [haccount, Except.ok.injEq, Option.some.injEq] at hstored
    exact hstored
  obtain ⟨read, hread, hissuer, hstart, hreserve⟩ := hsame.exists_unpack_eq hunpack
  refine ⟨⟨address, replaced.owner, replaced.lamports, read⟩, fetchAt_eq_ok_iff.mpr ⟨?_, ?_,
    haddress⟩⟩
  · exact Connection.fetchIssuance_eq_ok_iff.mpr ⟨replaced, read, hreplaced, hread, rfl⟩
  · rw [hissuer, hstart, hreserve]
    exact hderive

/-- The bytes whose digest is the handle's address. -/
def hashed (handle : Issuance) : List UInt8 :=
  Address.hashed (Address.issuanceSeeds handle.issuer handle.start handle.reserve) handle.program
    handle.bump

/-- An address has one handle only, or there is a collision. -/
theorem Obtained.eq_or_collision {handle other : Issuance} (hhandle : handle.Obtained)
    (hother : other.Obtained) (haddress : handle.address = other.address) :
    handle = other ∨ Address.Collision handle.hashed other.hashed := by
  have hderived : (Recipe.issuance handle.program handle.issuer handle.start
      handle.reserve).derive = .ok ⟨handle.address, handle.bump⟩ := hhandle.address_eq
  have hfound : (Recipe.issuance other.program other.issuer other.start other.reserve).derive =
      .ok ⟨other.address, other.bump⟩ := hother.address_eq
  refine (Recipe.eq_or_collision hderived hfound haddress).imp_left fun hsame => ?_
  rw [hsame, hfound, Except.ok.injEq, DerivedAddress.mk.injEq] at hderived
  obtain ⟨hprogram, hissuer, hstart, hreserve⟩ := Recipe.issuance.inj hsame
  cases handle
  cases other
  simp only [mk.injEq]
  exact ⟨hprogram, haddress, hderived.2.symm, hissuer, hstart, hreserve⟩

theorem fetchAt_eq_or_collision {connection other : Connection} {timeline later : Timeline}
    {address program second : Key} {handle again : Issuance} {account found : IssuanceAccount}
    (hfirst : (fetchAt connection program address timeline).1 = .ok (handle, account))
    (hsecond : (fetchAt other second address later).1 = .ok (again, found)) :
    program = second ∧ handle = again ∨ Address.Collision handle.hashed again.hashed := by
  obtain ⟨-, hderive, haddress⟩ := fetchAt_eq_ok_iff.mp hfirst
  obtain ⟨-, hagain, hsame⟩ := fetchAt_eq_ok_iff.mp hsecond
  have hone := Obtained.eq_or_collision (.derived hderive) (.derived hagain)
    (haddress.trans hsame.symm)
  refine hone.imp_left fun heq => ⟨?_, heq⟩
  rw [← (derive_eq_ok_iff.mp hderive).2.1, ← (derive_eq_ok_iff.mp hagain).2.1, heq]

/-- A look-up makes one call, and its verdict is the only one that the reply allows.  It accepts an
account for its version and seeds alone, and accepts none for two programs, except through a
collision. -/
theorem fetchAt_classifies :
    (∀ (connection : Connection) (address : Key) (timeline : Timeline),
      (connection.fetchIssuance address).Decides timeline (.account address)
        (connection.account timeline.calls address) (Connection.Reads address)) ∧
    (∀ (handle : Issuance) (connection : Connection) (timeline : Timeline),
      (handle.fetch connection).Decides timeline (.account handle.address)
        (connection.account timeline.calls handle.address) (Connection.Reads handle.address)) ∧
    (∀ (connection : Connection) (program address : Key) (timeline : Timeline),
      (fetchAt connection program address).Decides timeline (.account address)
        (connection.account timeline.calls address) (Verdict program address)) ∧
    (∀ {connection other : Connection} {timeline later : Timeline} {address : Key}
        {account replaced : Account},
      (connection.account timeline.calls address).outcome = .ok (some account) →
      (other.account later.calls address).outcome = .ok (some replaced) →
      Snapshot.SameSeeds account.data replaced.data → ∀ program handle,
        (∃ found, (fetchAt connection program address timeline).1 = .ok (handle, found)) ↔
          ∃ found, (fetchAt other program address later).1 = .ok (handle, found)) ∧
    ∀ {connection other : Connection} {timeline later : Timeline} {address program second : Key}
        {handle again : Issuance} {account found : IssuanceAccount},
      (fetchAt connection program address timeline).1 = .ok (handle, account) →
      (fetchAt other second address later).1 = .ok (again, found) →
      program = second ∧ handle = again ∨ Address.Collision handle.hashed again.hashed := by
  refine ⟨Connection.fetchIssuance_decides, fun handle connection timeline =>
    connection.fetchIssuance_decides handle.address timeline, fetchAt_decides, ?_,
    fetchAt_eq_or_collision⟩
  intro connection other timeline later address account replaced haccount hreplaced hsame program
    handle
  exact ⟨accepts_of_sameSeeds haccount hreplaced hsame,
    accepts_of_sameSeeds hreplaced haccount hsame.symm⟩

/-- The funded account with everything changed that a look-up does not decide by. -/
def defacedAccount : Account where
  lamports := 0
  owner := Bytes.zero 32
  data :=
    { Snapshot.fundedSnapshot with
      bump := 7, lockMint := ⟨List.replicate 32 8, rfl⟩, maturity := -9, lastDay := 10 }.pack 0 ++
      [11]
  executable := true
  rentEpoch := 12

def defacedConnection : Connection :=
  { fundedConnection with
    account := fun _ address =>
      ⟨0, (Ledger.put [] funded.address (.ok defacedAccount)).read address⟩ }

theorem account_fundedConnection (timeline : Timeline) :
    (fundedConnection.account timeline.calls funded.address).outcome =
      .ok (some fundedAccount) := by
  rw [fundedConnection, Script.account_put]
  rfl

theorem account_defacedConnection (timeline : Timeline) :
    (defacedConnection.account timeline.calls funded.address).outcome =
      .ok (some defacedAccount) := by
  exact Script.account_put {} [] funded.address (.ok defacedAccount) timeline.calls

theorem sameSeeds_defaced : Snapshot.SameSeeds fundedAccount.data defacedAccount.data := by
  have hfunded : 283 ≤ fundedAccount.data.length :=
    Nat.le_of_eq (Snapshot.fundedSnapshot.length_pack 1).symm
  have hdefaced : 283 ≤ defacedAccount.data.length := by
    rw [defacedAccount, List.length_append, Snapshot.length_pack]
    decide
  exact ⟨iff_of_true hfunded hdefaced, by decide, by decide, by decide, by decide⟩

theorem fetchAt_funded :
    ∃ account,
      (fetchAt fundedConnection funded.program funded.address {}).1 = .ok (funded, account) := by
  have hstands : Snapshot.fundedSnapshot.StandsIn 1 (Snapshot.fundedSnapshot.pack 1) :=
    Snapshot.standsIn_iff.mpr ⟨[], (List.append_nil _).symm⟩
  have hunpack : Snapshot.unpack fundedAccount.data = .ok Snapshot.fundedSnapshot :=
    Snapshot.unpack_eq_ok_iff.mpr ⟨rfl, 1, hstands, rfl⟩
  have hfetch := Connection.fetchIssuance_eq_ok_iff.mpr
    ⟨fundedAccount, Snapshot.fundedSnapshot, account_fundedConnection {}, hunpack, rfl⟩
  exact ⟨_, fetchAt_eq_ok_iff.mpr ⟨hfetch, derive_funded, rfl⟩⟩

/-- The defaced account is accepted as well, for the same handle. -/
theorem fetchAt_classifies_defaced :
    (fundedConnection.account [] funded.address).outcome = .ok (some fundedAccount) ∧
      (defacedConnection.account [] funded.address).outcome = .ok (some defacedAccount) ∧
      Snapshot.SameSeeds fundedAccount.data defacedAccount.data ∧
      ∃ account found,
        (fetchAt fundedConnection funded.program funded.address {}).1 = .ok (funded, account) ∧
        (fetchAt defacedConnection funded.program funded.address {}).1 = .ok (funded, found) ∧
        (funded.program = funded.program ∧ funded = funded ∨
          Address.Collision funded.hashed funded.hashed) := by
  obtain ⟨-, -, -, haccepts, hone⟩ := fetchAt_classifies
  obtain ⟨account, hfunded⟩ := fetchAt_funded
  have hsame := haccepts (account_fundedConnection {}) (account_defacedConnection {})
    sameSeeds_defaced funded.program funded
  obtain ⟨found, hdefaced⟩ := hsame.mp ⟨account, hfunded⟩
  exact ⟨account_fundedConnection {}, account_defacedConnection {}, sameSeeds_defaced, account,
    found, hfunded, hdefaced, hone hfunded hdefaced⟩

end Issuance

end IssuanceClient
