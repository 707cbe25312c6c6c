import IssuanceClient.Address

/-!
The search for a bump.  Seeds that break a limit are refused for the first one that they break.  For
all others, each bump gives one candidate, and nothing but the candidates decides the search.
-/

namespace IssuanceClient.Address

/-- Seeds that keep the limits and leave a place for the bump. -/
structure Accepted (seeds : List (List UInt8)) : Prop where
  count : seeds.length < maxSeeds
  lengths : ∀ seed ∈ seeds, seed.length ≤ maxSeedLength

/-- The lowest position of a seed that is over the limit, and the length of that seed. -/
structure FirstTooLong (seeds : List (List UInt8)) (index length : Nat) : Prop where
  found : ∃ seed, seeds[index]? = some seed ∧ seed.length = length
  tooLong : 32 < length
  first : ∀ before seed, before < index → seeds[before]? = some seed → seed.length ≤ 32

/-- Why seeds are refused.  If there are too many, it does not matter how long they are. -/
inductive Refused (seeds : List (List UInt8)) : ConfigurationFault → Prop
  | tooMany (hcount : 16 ≤ seeds.length) : Refused seeds (.tooManySeeds seeds.length)
  | tooLong {index length : Nat} (hcount : seeds.length < 16)
      (hfirst : FirstTooLong seeds index length) : Refused seeds (.seedTooLong index length)

def hashed (seeds : List (List UInt8)) (program : Key) (bump : UInt8) : List UInt8 :=
  preimage (seeds ++ [[bump]]) program

/-- The address that a bump gives, if it is no curve point. -/
def candidate (seeds : List (List UInt8)) (program : Key) (bump : UInt8) : Key :=
  sha256 (hashed seeds program bump)

/-- What is hashed depends on the seeds only through the bytes they make together. -/
theorem hashed_eq (seeds : List (List UInt8)) (program : Key) (bump : UInt8) :
    hashed seeds program bump = seeds.flatten ++ bump :: (program.toList ++ marker) := by
  simp [hashed, preimage]

variable {seeds : List (List UInt8)} {program : Key}

theorem create_bump (haccepted : Accepted seeds) (bump : UInt8) :
    create (seeds ++ [[bump]]) program =
      if Ed25519.isPoint (candidate seeds program bump) then .error .onCurve
      else .ok (candidate seeds program bump) := by
  have hcount : ¬ maxSeeds < (seeds ++ [[bump]]).length := by
    have hlt := haccepted.count
    rw [List.length_append, List.length_singleton]
    omega
  have hlengths : ¬ (seeds ++ [[bump]]).any (maxSeedLength < ·.length) := by
    rw [List.any_eq_true]
    rintro ⟨seed, hseed, hlong⟩
    have hlong := of_decide_eq_true hlong
    rcases List.mem_append.mp hseed with hmem | hmem
    · exact absurd (haccepted.lengths seed hmem) (by omega)
    · rw [List.mem_singleton.mp hmem, List.length_singleton, maxSeedLength] at hlong
      omega
  rw [create, if_neg hcount, if_neg hlengths]
  rfl

theorem search_succ (haccepted : Accepted seeds) (count : Nat) :
    search seeds program (count + 1) =
      if Ed25519.isPoint (candidate seeds program (.ofNat count)) then search seeds program count
      else .ok ⟨candidate seeds program (.ofNat count), .ofNat count⟩ := by
  rw [search, create_bump haccepted]
  cases Ed25519.isPoint (candidate seeds program (.ofNat count)) <;> rfl

theorem derive_of_accepted (haccepted : Accepted seeds) :
    derive seeds program = search seeds program 256 := by
  have hcount : ¬ maxSeeds ≤ seeds.length := by
    have hlt := haccepted.count
    omega
  have hlengths : seeds.findIdx? (maxSeedLength < ·.length) = none := by
    rw [List.findIdx?_eq_none_iff]
    intro seed hseed
    exact decide_eq_false (Nat.not_lt.mpr (haccepted.lengths seed hseed))
  rw [derive, if_neg hcount, hlengths]

theorem derive_of_first (program : Key) (haccepted : Accepted seeds)
    (hfirst : Ed25519.isPoint (candidate seeds program 255) = false) :
    derive seeds program = .ok ⟨candidate seeds program 255, 255⟩ := by
  have hoff : ¬ Ed25519.isPoint (candidate seeds program (.ofNat 255)) = true := by
    intro hon
    exact absurd (hfirst.symm.trans hon) (by decide)
  rw [derive_of_accepted haccepted, search_succ haccepted, if_neg hoff]
  rfl

theorem address_of_search (haccepted : Accepted seeds) {count : Nat} {derived : DerivedAddress}
    (hsearch : search seeds program count = .ok derived) :
    derived.address = candidate seeds program derived.bump := by
  induction count with
  | zero => exact nomatch hsearch
  | succ count ih =>
      rw [search_succ haccepted] at hsearch
      split at hsearch
      · exact ih hsearch
      · obtain rfl := Except.ok.inj hsearch
        rfl

/-- A search through candidates finds nothing wrong with the seeds. -/
theorem search_ne_configuration (haccepted : Accepted seeds) (count : Nat)
    (fault : ConfigurationFault) : search seeds program count ≠ .error (.configuration fault) := by
  induction count with
  | zero => exact fun h => (nomatch h)
  | succ count ih =>
      rw [search_succ haccepted]
      split
      · exact ih
      · exact fun h => (nomatch h)

theorem firstTooLong_iff {index length : Nat} :
    FirstTooLong seeds index length ↔
      seeds.findIdx? (maxSeedLength < ·.length) = some index ∧
        (seeds.getD index []).length = length := by
  rw [List.findIdx?_eq_some_iff_getElem, List.getD_eq_getElem?_getD]
  constructor
  · intro hfirst
    obtain ⟨seed, hseed, rfl⟩ := hfirst.found
    obtain ⟨hindex, rfl⟩ := List.getElem?_eq_some_iff.mp hseed
    refine ⟨⟨hindex, decide_eq_true hfirst.tooLong, fun before hbefore hlong => ?_⟩, ?_⟩
    · have hshort := hfirst.first before _ hbefore (List.getElem?_eq_getElem (by omega))
      exact absurd (of_decide_eq_true hlong) (Nat.not_lt.mpr hshort)
    · rw [hseed, Option.getD_some]
  · rintro ⟨⟨hindex, hlong, hshort⟩, rfl⟩
    have hseed : seeds[index]? = some seeds[index] := List.getElem?_eq_getElem hindex
    rw [hseed, Option.getD_some]
    refine ⟨⟨_, hseed, rfl⟩, of_decide_eq_true hlong, fun before seed hbefore hfound => ?_⟩
    obtain ⟨_, rfl⟩ := List.getElem?_eq_some_iff.mp hfound
    exact Nat.not_lt.mp fun hover => hshort before hbefore (decide_eq_true hover)

theorem Refused.derive_eq {fault : ConfigurationFault} (hrefused : Refused seeds fault)
    (program : Key) : derive seeds program = .error (.configuration fault) := by
  cases hrefused with
  | tooMany hcount =>
      have hmany : maxSeeds ≤ seeds.length := hcount
      rw [derive, if_pos hmany]
  | tooLong hcount hfirst =>
      have hfew : ¬ maxSeeds ≤ seeds.length := Nat.not_le.mpr hcount
      obtain ⟨hindex, rfl⟩ := firstTooLong_iff.mp hfirst
      rw [derive, if_neg hfew, hindex]

/-- Seeds keep the limits, or there is a reason to refuse them. -/
theorem accepted_or_refused (seeds : List (List UInt8)) :
    Accepted seeds ∨ ∃ fault, Refused seeds fault := by
  rcases Nat.lt_or_ge seeds.length 16 with hcount | hcount
  · cases hindex : seeds.findIdx? (maxSeedLength < ·.length) with
    | some index => exact .inr ⟨_, .tooLong hcount (firstTooLong_iff.mpr ⟨hindex, rfl⟩)⟩
    | none =>
        refine .inl ⟨hcount, fun seed hseed => ?_⟩
        have hshort := List.findIdx?_eq_none_iff.mp hindex seed hseed
        exact Nat.not_lt.mp (of_decide_eq_false hshort)
  · exact .inr ⟨_, .tooMany hcount⟩

theorem Refused.not_accepted {fault : ConfigurationFault} (hrefused : Refused seeds fault) :
    ¬ Accepted seeds := by
  intro haccepted
  cases hrefused with
  | tooMany hcount => exact absurd haccepted.count (Nat.not_lt.mpr hcount)
  | tooLong hcount hfirst =>
      obtain ⟨seed, hseed, rfl⟩ := hfirst.found
      have hshort := haccepted.lengths seed (List.mem_of_getElem? hseed)
      exact absurd hfirst.tooLong (Nat.not_lt.mpr hshort)

theorem accepted_iff_not_refused : Accepted seeds ↔ ¬ ∃ fault, Refused seeds fault := by
  constructor
  · rintro haccepted ⟨fault, hrefused⟩
    exact hrefused.not_accepted haccepted
  · exact (accepted_or_refused seeds).resolve_right

/-- The calls that are not refused are those whose seeds keep the limits. -/
theorem accepted_iff (program : Key) :
    Accepted seeds ↔ ∀ fault, derive seeds program ≠ .error (.configuration fault) := by
  constructor
  · intro haccepted fault
    rw [derive_of_accepted haccepted]
    exact search_ne_configuration haccepted 256 fault
  · intro hderive
    rw [accepted_iff_not_refused]
    rintro ⟨fault, hrefused⟩
    exact hderive fault (hrefused.derive_eq program)

theorem accepted_of_derive {derived : DerivedAddress}
    (hderive : derive seeds program = .ok derived) : Accepted seeds :=
  (accepted_iff program).mpr fun fault hfault => by
    rw [hderive] at hfault
    exact nomatch hfault

/-- A derived address is the digest of what was hashed for its bump. -/
theorem address_of_derive {derived : DerivedAddress}
    (hderive : derive seeds program = .ok derived) :
    derived.address = sha256 (hashed seeds program derived.bump) := by
  have haccepted := accepted_of_derive hderive
  rw [derive_of_accepted haccepted] at hderive
  exact address_of_search haccepted hderive

/-- Seeds with the same candidates are searched to the same end. -/
theorem search_congr {others : List (List UInt8)} (haccepted : Accepted seeds)
    (hothers : Accepted others)
    (hcandidate : ∀ bump, candidate seeds program bump = candidate others program bump)
    (count : Nat) : search seeds program count = search others program count := by
  induction count with
  | zero => rfl
  | succ count ih => rw [search_succ haccepted, search_succ hothers, hcandidate, ih]

end IssuanceClient.Address
