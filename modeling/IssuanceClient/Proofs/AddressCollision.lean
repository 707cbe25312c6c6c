import IssuanceClient.Program
import IssuanceClient.Proofs.AddressSearch
import IssuanceClient.Proofs.CurveMembership

/-!
Derived addresses do not alias.  The hashed bytes carry no lengths, so seeds are told apart only by
the bytes that they make together; the three recipes make 64, 68 and 96 bytes, of fields with fixed
widths.  Whatever else has the same address shows a collision of the digest.
-/

namespace IssuanceClient.Address

/-- Two byte strings with the same digest. -/
structure Collision (first second : List UInt8) : Prop where
  distinct : first ≠ second
  digest : sha256 first = sha256 second

theorem hashed_inj {seeds others : List (List UInt8)} {program other : Key} {bump last : UInt8} :
    hashed seeds program bump = hashed others other last ↔
      program = other ∧ bump = last ∧ seeds.flatten = others.flatten := by
  rw [hashed_eq, hashed_eq]
  constructor
  · intro h
    -- What follows the seeds has a fixed width, so the two strings split at the same place.
    have hlength : (bump :: (program.toList ++ marker)).length =
        (last :: (other.toList ++ marker)).length := by simp
    obtain ⟨hseeds, hrest⟩ := List.append_inj' h hlength
    obtain ⟨hbump, hprogram⟩ := List.cons.inj hrest
    exact ⟨(Bytes.toList_append_inj.mp hprogram).1, hbump, hseeds⟩
  · rintro ⟨rfl, rfl, hseeds⟩
    rw [hseeds]

/-- Calls under one program whose seeds make the same bytes have the same result. -/
theorem derive_congr {seeds others : List (List UInt8)} (haccepted : Accepted seeds)
    (hothers : Accepted others) (hflatten : seeds.flatten = others.flatten) (program : Key) :
    derive seeds program = derive others program := by
  rw [derive_of_accepted haccepted, derive_of_accepted hothers]
  refine search_congr haccepted hothers (fun bump => ?_) 256
  rw [candidate, candidate, hashed_inj.mpr ⟨rfl, rfl, hflatten⟩]

/-- Calls with the same address hash the same bytes, or show a collision. -/
theorem hashed_eq_or_collision {seeds others : List (List UInt8)} {program other : Key}
    {derived found : DerivedAddress} (hderived : derive seeds program = .ok derived)
    (hfound : derive others other = .ok found) (haddress : derived.address = found.address) :
    hashed seeds program derived.bump = hashed others other found.bump ∨
      Collision (hashed seeds program derived.bump) (hashed others other found.bump) := by
  by_cases hsame : hashed seeds program derived.bump = hashed others other found.bump
  · exact Or.inl hsame
  · refine Or.inr ⟨hsame, ?_⟩
    rw [← address_of_derive hderived, haddress, address_of_derive hfound]

end IssuanceClient.Address

namespace IssuanceClient

/-- The addresses that the client derives, each with what it is derived from. -/
inductive Recipe
  | issuance (program issuer : Key) (start : Int64) (reserve : UInt128)
  | userState (program parent participant : Key)
  | tokenAccount (owner mint : Key)
deriving DecidableEq, Repr

namespace Recipe

def seeds : Recipe → List (List UInt8)
  | issuance _ issuer start reserve => Address.issuanceSeeds issuer start reserve
  | userState _ parent participant => Address.userSeeds parent participant
  | tokenAccount owner mint => Address.tokenAccountSeeds owner mint

def program : Recipe → Key
  | issuance program .. => program
  | userState program .. => program
  | tokenAccount .. => tokenAccountProgram

def derive : Recipe → Except Failure DerivedAddress
  | issuance program issuer start reserve => Address.issuance program issuer start reserve
  | userState program parent participant => Address.userState program parent participant
  | tokenAccount owner mint => Address.tokenAccount owner mint

theorem derive_eq (recipe : Recipe) :
    recipe.derive = Address.derive recipe.seeds recipe.program := by
  cases recipe <;> rfl

/-- No recipe asks for seeds that are refused. -/
theorem accepted_seeds (recipe : Recipe) : Address.Accepted recipe.seeds := by
  constructor
  · cases recipe <;> simp [seeds, Address.issuanceSeeds, Address.userSeeds,
      Address.tokenAccountSeeds, maxSeeds]
  · cases recipe <;> simp [seeds, Address.issuanceSeeds, Address.userSeeds,
      Address.tokenAccountSeeds, Address.issuanceSeed, Address.userSeed, maxSeedLength]

theorem derive_of_first (recipe : Recipe)
    (hfirst : Ed25519.isPoint (Address.candidate recipe.seeds recipe.program 255) = false) :
    recipe.derive = .ok ⟨Address.candidate recipe.seeds recipe.program 255, 255⟩ := by
  rw [derive_eq, Address.derive_of_first recipe.program recipe.accepted_seeds hfirst]

def width : Recipe → Nat
  | issuance .. => 8 + 32 + 8 + 16
  | userState .. => 4 + 32 + 32
  | tokenAccount .. => 32 + 32 + 32

theorem length_flatten_seeds (recipe : Recipe) : recipe.seeds.flatten.length = recipe.width := by
  cases recipe <;>
    simp [seeds, width, Address.issuanceSeeds, Address.userSeeds, Address.tokenAccountSeeds,
      Address.issuanceSeed, Address.userSeed]

theorem issuance_flatten (program issuer : Key) (start : Int64) (reserve : UInt128) :
    (issuance program issuer start reserve).seeds.flatten =
      Address.issuanceSeed ++ (issuer.toList ++ (LittleEndian.ofInt64 start ++
        (LittleEndian.ofUInt128 reserve ++ []))) := by
  simp [seeds, Address.issuanceSeeds]

theorem userState_flatten (program parent participant : Key) :
    (userState program parent participant).seeds.flatten =
      Address.userSeed ++ (parent.toList ++ (participant.toList ++ [])) := by
  simp [seeds, Address.userSeeds]

theorem tokenAccount_flatten (owner mint : Key) :
    (tokenAccount owner mint).seeds.flatten =
      owner.toList ++ (tokenProgram.toList ++ (mint.toList ++ [])) := by
  simp [seeds, Address.tokenAccountSeeds]

/-- A recipe is known by its program and the bytes that its seeds make. -/
theorem eq_of_flatten_seeds_eq {r s : Recipe} (hprogram : r.program = s.program)
    (hflatten : r.seeds.flatten = s.seeds.flatten) : r = s := by
  have hwidth : r.width = s.width := by
    rw [← length_flatten_seeds, hflatten, length_flatten_seeds]
  -- Different recipes make different numbers of bytes.
  cases r with
  | issuance program issuer start reserve =>
      cases s with
      | issuance other sender begin total =>
          obtain rfl : program = other := hprogram
          rw [issuance_flatten, issuance_flatten, List.append_cancel_left_eq] at hflatten
          obtain ⟨rfl, hdates⟩ := Bytes.toList_append_inj.mp hflatten
          obtain ⟨rfl, hreserve⟩ := LittleEndian.codec_int64.write_append_inj hdates
          obtain ⟨rfl, _⟩ := LittleEndian.codec_uint128.write_append_inj hreserve
          rfl
      | userState => simp [width] at hwidth
      | tokenAccount => simp [width] at hwidth
  | userState program parent participant =>
      cases s with
      | issuance => simp [width] at hwidth
      | userState other owner member =>
          obtain rfl : program = other := hprogram
          rw [userState_flatten, userState_flatten, List.append_cancel_left_eq] at hflatten
          obtain ⟨rfl, hmember⟩ := Bytes.toList_append_inj.mp hflatten
          obtain ⟨rfl, _⟩ := Bytes.toList_append_inj.mp hmember
          rfl
      | tokenAccount => simp [width] at hwidth
  | tokenAccount owner mint =>
      cases s with
      | issuance => simp [width] at hwidth
      | userState => simp [width] at hwidth
      | tokenAccount holder coin =>
          rw [tokenAccount_flatten, tokenAccount_flatten] at hflatten
          obtain ⟨rfl, hrest⟩ := Bytes.toList_append_inj.mp hflatten
          obtain ⟨_, hmint⟩ := Bytes.toList_append_inj.mp hrest
          obtain ⟨rfl, _⟩ := Bytes.toList_append_inj.mp hmint
          rfl

theorem eq_or_collision {r s : Recipe} {derived found : DerivedAddress}
    (hderived : r.derive = .ok derived) (hfound : s.derive = .ok found)
    (haddress : derived.address = found.address) :
    r = s ∨ Address.Collision (Address.hashed r.seeds r.program derived.bump)
      (Address.hashed s.seeds s.program found.bump) := by
  rw [derive_eq] at hderived hfound
  refine (Address.hashed_eq_or_collision hderived hfound haddress).imp_left fun hhashed => ?_
  obtain ⟨hprogram, _, hflatten⟩ := Address.hashed_inj.mp hhashed
  exact eq_of_flatten_seeds_eq hprogram hflatten

end Recipe

namespace Address

/-- Derived addresses do not alias: the joined seeds, the program and the bump make the address, and
nothing else makes the same one, except through a collision. -/
theorem derive_no_alias :
    (∀ {seeds others : List (List UInt8)} (program : Key), Accepted seeds → Accepted others →
      seeds.flatten = others.flatten → derive seeds program = derive others program) ∧
    (∀ {seeds others : List (List UInt8)} {program other : Key} {derived found : DerivedAddress},
      derive seeds program = .ok derived → derive others other = .ok found →
      derived.address = found.address →
      (program = other ∧ derived.bump = found.bump ∧ seeds.flatten = others.flatten) ∨
        Collision (hashed seeds program derived.bump) (hashed others other found.bump)) ∧
    ∀ {r s : Recipe} {derived found : DerivedAddress},
      r.derive = .ok derived → s.derive = .ok found → derived.address = found.address →
      r = s ∨ Collision (hashed r.seeds r.program derived.bump)
        (hashed s.seeds s.program found.bump) := by
  refine ⟨fun program haccepted hothers hflatten => derive_congr haccepted hothers hflatten program,
    fun hderived hfound haddress => ?_, Recipe.eq_or_collision⟩
  exact (hashed_eq_or_collision hderived hfound haddress).imp_left hashed_inj.mp

/-- Two ways to cut the same seeds, and a recipe. -/
theorem derive_no_alias_cut :
    ∃ (program : Key) (derived account : DerivedAddress),
      derive [[1, 2]] program = .ok derived ∧ derive [[1], [2]] program = .ok derived ∧
      (Recipe.tokenAccount program program).derive = .ok account ∧
      ((program = program ∧ derived.bump = derived.bump ∧
          List.flatten [[1, 2]] = List.flatten [[1], [(2 : UInt8)]]) ∨
        Collision (hashed [[1, 2]] program derived.bump)
          (hashed [[1], [2]] program derived.bump)) ∧
      (Recipe.tokenAccount program program = Recipe.tokenAccount program program ∨
        Collision (hashed (tokenAccountSeeds program program) tokenAccountProgram account.bump)
          (hashed (tokenAccountSeeds program program) tokenAccountProgram account.bump)) := by
  have hwhole : Accepted [[1, 2]] := ⟨by decide, by decide⟩
  have hcut : Accepted [[1], [2]] := ⟨by decide, by decide⟩
  have hrecipe : Accepted
      (tokenAccountSeeds ⟨List.replicate 32 2, rfl⟩ ⟨List.replicate 32 2, rfl⟩) :=
    ⟨by decide, by decide⟩
  have hderived := derive_of_first ⟨List.replicate 32 2, rfl⟩ hwhole
    (by rw [Ed25519.isPoint_eq_powerWithin]; decide +kernel)
  have haccount := derive_of_first tokenAccountProgram hrecipe
    (by rw [Ed25519.isPoint_eq_powerWithin]; decide +kernel)
  have hsame := hderived
  rw [derive_no_alias.1 _ hwhole hcut rfl] at hsame
  exact ⟨_, _, _, hderived, hsame, haccount, derive_no_alias.2.1 hderived hsame rfl,
    derive_no_alias.2.2 (r := .tokenAccount _ _) (s := .tokenAccount _ _) haccount haccount rfl⟩

end Address

end IssuanceClient
