import IssuanceClient.Proofs.IssuanceLookup

/-!
The bump of a derived address.  The search counts down, so it ends at the highest bump whose
candidate is no curve point, and it gives up only after bump zero.  An address that was derived is
therefore off the curve, and its seeds, program and bump are enough to compute it again.
-/

namespace IssuanceClient

namespace Address

variable {seeds : List (List UInt8)} {program : Key}

/-- The highest bump below a limit that gives an address. -/
structure HighestBump (seeds : List (List UInt8)) (program : Key) (limit : Nat) (bump : UInt8) :
    Prop where
  below : bump.toNat < limit
  offCurve : Ed25519.isPoint (candidate seeds program bump) = false
  onCurve : ∀ higher : UInt8, bump < higher → higher.toNat < limit →
    Ed25519.isPoint (candidate seeds program higher) = true

theorem eq_ofNat_of_toNat_eq {bump : UInt8} {count : Nat} (hbump : bump.toNat = count) :
    bump = .ofNat count := by
  rw [← hbump, UInt8.ofNat_toNat]

theorem highestBump_succ_of_on {count : Nat}
    (hon : Ed25519.isPoint (candidate seeds program (.ofNat count)) = true) {bump : UInt8} :
    HighestBump seeds program (count + 1) bump ↔ HighestBump seeds program count bump := by
  constructor
  · intro hhighest
    have hbelow := hhighest.below
    have hother : bump.toNat ≠ count := fun hbump => by
      have hoff := hhighest.offCurve
      rw [eq_ofNat_of_toNat_eq hbump, hon] at hoff
      exact nomatch hoff
    exact ⟨by omega, hhighest.offCurve, fun higher hhigher hlt =>
      hhighest.onCurve higher hhigher (by omega)⟩
  · intro hhighest
    refine ⟨Nat.lt_succ_of_lt hhighest.below, hhighest.offCurve, fun higher hhigher hlt => ?_⟩
    by_cases hlast : higher.toNat = count
    · rw [eq_ofNat_of_toNat_eq hlast, hon]
    · exact hhighest.onCurve higher hhigher (by omega)

theorem highestBump_succ_of_off {count : Nat} (hcount : count < 256)
    (hoff : Ed25519.isPoint (candidate seeds program (.ofNat count)) = false) {bump : UInt8} :
    HighestBump seeds program (count + 1) bump ↔ bump = .ofNat count := by
  have hfirst : (UInt8.ofNat count).toNat = count := UInt8.toNat_ofNat_of_lt' hcount
  constructor
  · intro hhighest
    have hbelow := hhighest.below
    by_cases hlast : bump.toNat = count
    · exact eq_ofNat_of_toNat_eq hlast
    · have hlt : bump < .ofNat count := UInt8.lt_iff_toNat_lt.mpr (by omega)
      have hon := hhighest.onCurve (.ofNat count) hlt (by omega)
      exact absurd (hoff.symm.trans hon) (by decide)
  · rintro rfl
    refine ⟨by omega, hoff, fun higher hhigher hbelow => ?_⟩
    have hlt := UInt8.lt_iff_toNat_lt.mp hhigher
    omega

/-- The search finds the highest bump, with its candidate. -/
theorem search_eq_ok_iff (haccepted : Accepted seeds) {count : Nat} (hcount : count ≤ 256)
    {address : Key} {bump : UInt8} :
    search seeds program count = .ok ⟨address, bump⟩ ↔
      HighestBump seeds program count bump ∧ address = candidate seeds program bump := by
  induction count with
  | zero =>
      constructor
      · exact fun h => (nomatch h)
      · rintro ⟨hhighest, -⟩
        exact absurd hhighest.below (Nat.not_lt_zero _)
  | succ count ih =>
      rw [search_succ haccepted]
      cases hpoint : Ed25519.isPoint (candidate seeds program (.ofNat count)) with
      | true =>
          rw [if_pos rfl, ih (by omega), highestBump_succ_of_on hpoint]
      | false =>
          rw [if_neg (by decide), highestBump_succ_of_off hcount hpoint, Except.ok.injEq,
            DerivedAddress.mk.injEq]
          constructor
          · rintro ⟨rfl, rfl⟩
            exact ⟨rfl, rfl⟩
          · rintro ⟨rfl, rfl⟩
            exact ⟨rfl, rfl⟩

/-- The search fails only by coming to its end, with every candidate a curve point. -/
theorem search_eq_error_iff (haccepted : Accepted seeds) {count : Nat} (hcount : count ≤ 256)
    {failure : Failure} :
    search seeds program count = .error failure ↔
      failure = .derivationExhausted program ∧
        ∀ bump : UInt8, bump.toNat < count →
          Ed25519.isPoint (candidate seeds program bump) = true := by
  induction count with
  | zero =>
      constructor
      · intro hsearch
        obtain rfl := Except.error.inj hsearch
        exact ⟨rfl, fun bump hbump => absurd hbump (Nat.not_lt_zero _)⟩
      · rintro ⟨rfl, -⟩
        rfl
  | succ count ih =>
      rw [search_succ haccepted]
      cases hpoint : Ed25519.isPoint (candidate seeds program (.ofNat count)) with
      | true =>
          rw [if_pos rfl, ih (by omega)]
          refine and_congr_right fun _ => ⟨fun hall bump hbump => ?_, fun hall bump hbump =>
            hall bump (by omega)⟩
          by_cases hlast : bump.toNat = count
          · rw [eq_ofNat_of_toNat_eq hlast, hpoint]
          · exact hall bump (by omega)
      | false =>
          rw [if_neg (by decide)]
          constructor
          · exact fun h => (nomatch h)
          · rintro ⟨-, hall⟩
            have hfirst : (UInt8.ofNat count).toNat = count := UInt8.toNat_ofNat_of_lt' hcount
            have hon := hall (.ofNat count) (by omega)
            exact absurd (hpoint.symm.trans hon) (by decide)

theorem derive_eq_ok_iff (haccepted : Accepted seeds) {address : Key} {bump : UInt8} :
    derive seeds program = .ok ⟨address, bump⟩ ↔
      Ed25519.isPoint (candidate seeds program bump) = false ∧
        address = candidate seeds program bump ∧
        ∀ higher, bump < higher → Ed25519.isPoint (candidate seeds program higher) = true := by
  rw [derive_of_accepted haccepted, search_eq_ok_iff haccepted (Nat.le_refl 256)]
  constructor
  · rintro ⟨hhighest, haddress⟩
    exact ⟨hhighest.offCurve, haddress, fun higher hhigher =>
      hhighest.onCurve higher hhigher higher.toNat_lt⟩
  · rintro ⟨hoff, haddress, hon⟩
    exact ⟨⟨bump.toNat_lt, hoff, fun higher hhigher _ => hon higher hhigher⟩, haddress⟩

theorem derive_eq_error_iff (haccepted : Accepted seeds) {failure : Failure} :
    derive seeds program = .error failure ↔
      failure = .derivationExhausted program ∧
        ∀ bump, Ed25519.isPoint (candidate seeds program bump) = true := by
  rw [derive_of_accepted haccepted, search_eq_error_iff haccepted (Nat.le_refl 256)]
  exact and_congr_right fun _ =>
    ⟨fun hall bump => hall bump bump.toNat_lt, fun hall bump _ => hall bump⟩

end Address

/-- An address off the curve that some seeds, a program and its bump alone give again. -/
structure DerivedAddress.BelongsTo (derived : DerivedAddress) (seeds : List (List UInt8))
    (program : Key) : Prop where
  offCurve : derived.isOffCurve = true
  recomputed : Address.create (seeds ++ [[derived.bump]]) program = .ok derived.address

theorem Address.belongsTo_of_derive {seeds : List (List UInt8)} {program : Key}
    {derived : DerivedAddress} (hderive : derive seeds program = .ok derived) :
    derived.BelongsTo seeds program := by
  have haccepted := accepted_of_derive hderive
  obtain ⟨hoff, haddress, -⟩ := (derive_eq_ok_iff haccepted).mp hderive
  constructor
  · rw [DerivedAddress.isOffCurve, haddress, hoff]
    rfl
  · rw [create_bump haccepted, hoff, haddress]
    rfl

namespace Recipe

variable {recipe : Recipe}

theorem belongsTo_of_derive {derived : DerivedAddress} (hderive : recipe.derive = .ok derived) :
    derived.BelongsTo recipe.seeds recipe.program := by
  rw [derive_eq] at hderive
  exact Address.belongsTo_of_derive hderive

/-- A recipe fails only when no bump gives an address. -/
theorem derive_eq_error_iff {failure : Failure} :
    recipe.derive = .error failure ↔
      failure = .derivationExhausted recipe.program ∧
        ∀ bump, Ed25519.isPoint (Address.candidate recipe.seeds recipe.program bump) = true := by
  rw [derive_eq, Address.derive_eq_error_iff recipe.accepted_seeds]

end Recipe

namespace Address

/-- Seeds that keep the limits give the highest bump off the curve, or fail when there is none; and
whatever was derived, directly or for a handle, is off the curve and can be computed again. -/
theorem derive_finds_highest_bump :
    (∀ {seeds : List (List UInt8)} (program : Key), Accepted seeds →
      (∀ address bump, derive seeds program = .ok ⟨address, bump⟩ ↔
        Ed25519.isPoint (candidate seeds program bump) = false ∧
          address = candidate seeds program bump ∧
          ∀ higher, bump < higher → Ed25519.isPoint (candidate seeds program higher) = true) ∧
      ∀ failure, derive seeds program = .error failure ↔
        failure = .derivationExhausted program ∧
          ∀ bump, Ed25519.isPoint (candidate seeds program bump) = true) ∧
    (∀ {seeds : List (List UInt8)} {program : Key} {derived : DerivedAddress},
      derive seeds program = .ok derived → derived.BelongsTo seeds program) ∧
    (∀ {recipe : Recipe} {derived : DerivedAddress},
      recipe.derive = .ok derived → derived.BelongsTo recipe.seeds recipe.program) ∧
    (∀ {program issuer : Key} {start : Int64} {reserve : UInt128} {handle : Issuance},
      Issuance.derive program issuer start reserve = .ok handle →
      DerivedAddress.BelongsTo ⟨handle.address, handle.bump⟩ (issuanceSeeds issuer start reserve)
        program) ∧
    ∀ {handle : Issuance} {participant : Key} {derived : DerivedAddress},
      handle.userState participant = .ok derived →
      derived.BelongsTo (userSeeds handle.address participant) handle.program := by
  refine ⟨fun program haccepted => ⟨fun address bump => derive_eq_ok_iff haccepted, fun failure =>
    derive_eq_error_iff haccepted⟩, belongsTo_of_derive, Recipe.belongsTo_of_derive,
    fun hderive => ?_, fun hderive => ?_⟩
  · exact belongsTo_of_derive (Issuance.derive_eq_ok_iff.mp hderive).1
  · exact belongsTo_of_derive hderive

/-- Two bumps are passed over before the third one gives an address. -/
theorem derive_finds_third_bump :
    ∃ program participant user,
      Accepted [[2]] ∧
      derive [[2]] program = .ok ⟨candidate [[2]] program 253, 253⟩ ∧
      DerivedAddress.BelongsTo ⟨candidate [[2]] program 253, 253⟩ [[2]] program ∧
      Issuance.derive Issuance.funded.program Issuance.funded.issuer Issuance.funded.start
        Issuance.funded.reserve = .ok Issuance.funded ∧
      DerivedAddress.BelongsTo ⟨Issuance.funded.address, Issuance.funded.bump⟩
        (issuanceSeeds Issuance.funded.issuer Issuance.funded.start Issuance.funded.reserve)
        Issuance.funded.program ∧
      Issuance.funded.userState participant = .ok user ∧
      user.BelongsTo (userSeeds Issuance.funded.address participant) Issuance.funded.program ∧
      user.BelongsTo
        (Recipe.userState Issuance.funded.program Issuance.funded.address participant).seeds
        Issuance.funded.program := by
  obtain ⟨hbumps, hdirect, hrecipe, hissuance, hstate⟩ := derive_finds_highest_bump
  have haccepted : Accepted [[2]] := ⟨by decide, by decide⟩
  have hoff : Ed25519.isPoint (candidate [[2]] ⟨List.replicate 32 2, rfl⟩ 253) = false := by
    rw [Ed25519.isPoint_eq_powerWithin]
    decide +kernel
  have hon (higher : UInt8) (hhigher : 253 < higher) :
      Ed25519.isPoint (candidate [[2]] ⟨List.replicate 32 2, rfl⟩ higher) = true := by
    have hlt := UInt8.lt_iff_toNat_lt.mp hhigher
    have hlast := higher.toNat_lt
    obtain rfl | rfl : higher = 254 ∨ higher = 255 := by
      rw [← UInt8.toNat_inj, ← UInt8.toNat_inj]
      simp at hlt ⊢
      omega
    · rw [Ed25519.isPoint_eq_powerWithin]
      decide +kernel
    · rw [Ed25519.isPoint_eq_powerWithin]
      decide +kernel
  obtain ⟨hok, -⟩ := hbumps ⟨List.replicate 32 2, rfl⟩ haccepted
  have hderived := (hok _ 253).mpr ⟨hoff, rfl, hon⟩
  have huser := (Recipe.userState Issuance.funded.program Issuance.funded.address
    ⟨List.replicate 32 5, rfl⟩).derive_of_first
      (by rw [Ed25519.isPoint_eq_powerWithin]; decide +kernel)
  exact ⟨_, _, _, haccepted, hderived, hdirect hderived, Issuance.derive_funded,
    hissuance Issuance.derive_funded, huser, hstate huser, hrecipe huser⟩

end Address

end IssuanceClient
