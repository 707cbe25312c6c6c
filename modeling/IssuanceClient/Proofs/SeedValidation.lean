import IssuanceClient.Proofs.HighestBump

/-!
Which seeds are refused.  Their number is looked at first and then their lengths, from the front on.
The limits are those that hold for a candidate, with one place left for the bump; so a refusal comes
before the search or not at all, and a search ends with an address or with all bumps used up.
-/

namespace IssuanceClient

/-- The ends of a search under a program: a result, or all bumps used up. -/
inductive Searched {α : Type} (program : Key) : Except Failure α → Prop
  | found (value : α) : Searched program (.ok value)
  | exhausted : Searched program (.error (.derivationExhausted program))

namespace Address

/-- Seeds that are let through: the search runs, only the curve can be against a candidate, and
there is an address in the end unless there is none for any bump. -/
structure Passes (seeds : List (List UInt8)) (program : Key) : Prop where
  searches : derive seeds program = search seeds program 256
  onCurve : ∀ bump fault, create (seeds ++ [[bump]]) program = .error fault → fault = .onCurve
  ends : Searched program (derive seeds program)
  exhausts_iff : derive seeds program = .error (.derivationExhausted program) ↔
    ∀ bump address, create (seeds ++ [[bump]]) program ≠ .ok address

variable {seeds : List (List UInt8)} {program : Key}

theorem derive_eq_configuration_iff {fault : ConfigurationFault} :
    derive seeds program = .error (.configuration fault) ↔ Refused seeds fault := by
  constructor
  · intro hderive
    rcases accepted_or_refused seeds with haccepted | ⟨other, hrefused⟩
    · exact absurd hderive ((accepted_iff program).mp haccepted fault)
    · rw [hrefused.derive_eq program, Except.error.injEq, Failure.configuration.injEq] at hderive
      rwa [← hderive]
  · intro hrefused
    exact hrefused.derive_eq program

/-- The limits of a complete list of seeds. -/
theorem create_eq_tooLong_iff :
    create seeds program = .error .tooLong ↔
      16 < seeds.length ∨ ∃ seed ∈ seeds, 32 < seed.length := by
  have hlengths : seeds.any (maxSeedLength < ·.length) ↔ ∃ seed ∈ seeds, 32 < seed.length := by
    rw [List.any_eq_true]
    exact exists_congr fun seed => and_congr_right fun _ => decide_eq_true_iff
  rw [create, ← hlengths]
  split
  · rename_i hcount
    exact iff_of_true rfl (.inl hcount)
  · rename_i hcount
    split
    · rename_i hlong
      exact iff_of_true rfl (.inr hlong)
    · rename_i hshort
      refine iff_of_false (fun hcreate => ?_) (not_or.mpr ⟨hcount, hshort⟩)
      dsimp only at hcreate
      split at hcreate
      · cases hcreate
      · cases hcreate

/-- A candidate is refused exactly if the seeds without the bump are. -/
theorem create_bump_eq_tooLong_iff (bump : UInt8) :
    create (seeds ++ [[bump]]) program = .error .tooLong ↔ ∃ fault, Refused seeds fault := by
  constructor
  · intro hcreate
    refine (accepted_or_refused seeds).resolve_left fun haccepted => ?_
    rw [create_bump haccepted] at hcreate
    split at hcreate
    · cases hcreate
    · cases hcreate
  · rintro ⟨fault, hrefused⟩
    rw [create_eq_tooLong_iff, List.length_append, List.length_singleton]
    cases hrefused with
    | tooMany hcount => exact .inl (Nat.lt_succ_of_le hcount)
    | tooLong hcount hfirst =>
        obtain ⟨seed, hseed, rfl⟩ := hfirst.found
        have hmem := List.mem_append_left [[bump]] (List.mem_of_getElem? hseed)
        exact .inr ⟨seed, hmem, hfirst.tooLong⟩

/-- The search comes to its end if no bump gives an address. -/
theorem derive_exhausts_iff (haccepted : Accepted seeds) :
    derive seeds program = .error (.derivationExhausted program) ↔
      ∀ bump address, create (seeds ++ [[bump]]) program ≠ .ok address := by
  rw [derive_eq_error_iff haccepted]
  constructor
  · rintro ⟨-, hon⟩ bump address hcreate
    rw [create_bump haccepted, if_pos (hon bump)] at hcreate
    cases hcreate
  · intro hnone
    refine ⟨rfl, fun bump => ?_⟩
    by_cases hon : Ed25519.isPoint (candidate seeds program bump) = true
    · exact hon
    · have hcreate : create (seeds ++ [[bump]]) program = _ := create_bump haccepted bump
      rw [if_neg hon] at hcreate
      exact absurd hcreate (hnone bump _)

theorem Accepted.passes (haccepted : Accepted seeds) (program : Key) : Passes seeds program := by
  have hnot := accepted_iff_not_refused.mp haccepted
  refine ⟨derive_of_accepted haccepted, fun bump fault hcreate => ?_, ?_,
    derive_exhausts_iff haccepted⟩
  · cases fault with
    | tooLong => exact absurd ((create_bump_eq_tooLong_iff bump).mp hcreate) hnot
    | onCurve => rfl
  · cases hderive : derive seeds program with
    | ok derived => exact .found derived
    | error failure =>
        obtain ⟨rfl, -⟩ := (derive_eq_error_iff haccepted).mp hderive
        exact .exhausted

end Address

theorem ConfigurationFault.message_tooManySeeds (count : Nat) :
    (tooManySeeds count).message = "too many seeds: " ++ toString count ++ " (max 15)" := by
  have hlimit : " (max " ++ (toString (maxSeeds - 1) ++ ")") = " (max 15)" := by decide
  rw [← hlimit, ← String.append_assoc, ← String.append_assoc]
  rfl

theorem ConfigurationFault.message_seedTooLong (index length : Nat) :
    (seedTooLong index length).message =
      "seed " ++ toString index ++ " is " ++ toString length ++ " bytes (max 32)" := by
  have hlimit : " bytes (max " ++ (toString maxSeedLength ++ ")") = " bytes (max 32)" := by decide
  rw [← hlimit, ← String.append_assoc, ← String.append_assoc]
  rfl

theorem Searched.bind_pure {α β : Type} {program : Key} {outcome : Except Failure α}
    (hsearched : Searched program outcome) (f : α → β) :
    Searched program (outcome >>= fun value => pure (f value)) := by
  cases hsearched with
  | found value => exact .found (f value)
  | exhausted => exact .exhausted

theorem Recipe.passes (recipe : Recipe) : Address.Passes recipe.seeds recipe.program :=
  recipe.accepted_seeds.passes recipe.program

theorem Recipe.searched (recipe : Recipe) : Searched recipe.program recipe.derive := by
  rw [recipe.derive_eq]
  exact recipe.passes.ends

theorem Issuance.searched_derive (program issuer : Key) (start : Int64) (reserve : UInt128) :
    Searched program (derive program issuer start reserve) := by
  rw [derive]
  exact (Recipe.issuance program issuer start reserve).searched.bind_pure _

theorem Issuance.searched_userState (issuance : Issuance) (participant : Key) :
    Searched issuance.program (issuance.userState participant) :=
  (Recipe.userState issuance.program issuance.address participant).searched

namespace Address

/-- Seeds are refused for their number or their lengths alone and before any bump is tried, and
exactly if every candidate would be refused too; the seeds that the client itself makes never
are. -/
theorem derive_validates_seeds :
    (∀ (seeds : List (List UInt8)) (program : Key),
      (∀ fault, derive seeds program = .error (.configuration fault) ↔ Refused seeds fault) ∧
      (∀ bump, create (seeds ++ [[bump]]) program = .error .tooLong ↔
        ∃ fault, Refused seeds fault) ∧
      ((¬ ∃ fault, Refused seeds fault) → Passes seeds program)) ∧
    (∀ count, (ConfigurationFault.tooManySeeds count).message =
      "too many seeds: " ++ toString count ++ " (max 15)") ∧
    (∀ index length, (ConfigurationFault.seedTooLong index length).message =
      "seed " ++ toString index ++ " is " ++ toString length ++ " bytes (max 32)") ∧
    (∀ recipe : Recipe,
      Passes recipe.seeds recipe.program ∧ Searched recipe.program recipe.derive) ∧
    (∀ program issuer start reserve,
      Searched program (Issuance.derive program issuer start reserve)) ∧
    ∀ (issuance : Issuance) participant,
      Searched issuance.program (issuance.userState participant) := by
  refine ⟨fun seeds program => ⟨fun fault => derive_eq_configuration_iff,
      create_bump_eq_tooLong_iff, fun hnot => ?_⟩,
    ConfigurationFault.message_tooManySeeds, ConfigurationFault.message_seedTooLong,
    fun recipe => ⟨recipe.passes, recipe.searched⟩, Issuance.searched_derive,
    Issuance.searched_userState⟩
  exact (accepted_iff_not_refused.mpr hnot).passes program

/-- As many seeds as are let through, each as long as may be. -/
def fullSeeds : List (List UInt8) := List.replicate 15 (List.replicate 32 7)

/-- One more seed is refused, and so is one more byte. -/
theorem derive_validates_full_seeds :
    (¬ ∃ fault, Refused fullSeeds fault) ∧ Passes fullSeeds systemProgram ∧
      derive ((7 :: List.replicate 32 7) :: fullSeeds) systemProgram =
        .error (.configuration (.tooManySeeds 16)) ∧
      derive [issuanceSeed, 7 :: List.replicate 32 7] systemProgram =
        .error (.configuration (.seedTooLong 1 33)) := by
  have hfull : ¬ ∃ fault, Refused fullSeeds fault :=
    accepted_iff_not_refused.mp ⟨by decide, by decide⟩
  obtain ⟨hvalidates, -⟩ := derive_validates_seeds
  obtain ⟨-, -, hpasses⟩ := hvalidates fullSeeds systemProgram
  obtain ⟨hmany, -⟩ := hvalidates ((7 :: List.replicate 32 7) :: fullSeeds) systemProgram
  obtain ⟨hlong, -⟩ := hvalidates [issuanceSeed, 7 :: List.replicate 32 7] systemProgram
  refine ⟨hfull, hpasses hfull, (hmany _).mpr (.tooMany (by decide)), (hlong _).mpr ?_⟩
  refine .tooLong (by decide) (firstTooLong_iff.mpr ⟨by decide, by decide⟩)

end Address

end IssuanceClient
