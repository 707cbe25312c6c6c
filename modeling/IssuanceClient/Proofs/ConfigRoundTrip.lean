import IssuanceClient.Proofs.ConfigReading

/-!
Writing a configuration into variables and reading it back.  Every field is written as a text that
stands for it and has no white space at its ends, so any white space may be put around it; a field
that is at its default need not be written at all.
-/

namespace IssuanceClient

/-- A text without a white space character has none at its ends. -/
theorem Text.tight_of_forall {text : String} (htext : ∀ c ∈ text.toList, isBlank c = false) :
    Tight text := by
  intro c hc
  rcases hc with hhead | hlast
  · exact htext c (List.mem_of_head? hhead)
  · exact htext c (List.mem_of_getLast? hlast)

theorem Text.isBlank_eq_false_of_isDigit {c : Char} (hc : c.isDigit) : isBlank c = false := by
  rw [Char.isDigit_iff_toNat] at hc
  have hlow : 48 ≤ c.toNat := hc.1
  have hhigh : c.toNat ≤ 57 := hc.2
  simp [isBlank, blankRanges]
  omega

theorem Text.tight_toString (n : Nat) : Tight (toString n) := by
  apply tight_of_forall
  intro c hc
  rw [Nat.toString_eq_ofList_toDigits, String.toList_ofList] at hc
  exact isBlank_eq_false_of_isDigit (Nat.isDigit_of_mem_toDigits (by decide) (by decide) hc)

theorem Text.toString_ne_empty (n : Nat) : toString n ≠ "" := by
  intro hempty
  rw [Nat.toString_eq_ofList_toDigits, String.ofList_eq_empty_iff] at hempty
  exact Nat.toDigits_ne_nil hempty

theorem Base58.Writes.tight {text : String} {bytes : List UInt8} (hwrites : Writes text bytes) :
    Text.Tight text := by
  have halphabet : alphabet.all (Text.isBlank · == false) := by decide
  apply Text.tight_of_forall
  intro c hc
  exact eq_of_beq (List.all_eq_true.mp halphabet c (hwrites.mem_alphabet c hc))

theorem key_text_ne_empty (key : Key) : key.text ≠ "" := by
  intro hempty
  have hkey := keyOfText_text key
  have hnone : keyOfText "" = .error .wrongSize := by decide +kernel
  rw [hempty, hnone] at hkey
  cases hkey

namespace Config

/-- The text of a setting that stands for a field of a configuration. -/
def text (config : Config) : Setting → String
  | .programId => config.program.text
  | .rpcUrl => config.url
  | .commitment => config.options.commitment.name
  | .confirmTimeout => toString config.options.timeout
  | .pollInterval => toString config.options.interval

/-- The configurations that variables can hold: an address that white space around it cannot
change, and spans that can be given. -/
structure Writable (config : Config) : Prop where
  url_ne_empty : config.url ≠ ""
  tight_url : Text.Tight config.url
  timeout_lt : config.options.timeout < 2 ^ 64
  interval_lt : config.options.interval < 2 ^ 64

/-- A source holds a configuration: every setting's text stands in its variable, with any white
space around it.  A setting whose text is the default one may be left open instead. -/
def Source.Holds (source : Source) (config : Config) : Prop :=
  ∀ setting : Setting,
    (∃ whole, source setting.name = some whole ∧ Text.Padded (config.text setting) whole) ∨
      setting ≠ .programId ∧ config.text setting = (ofProgram config.program).text setting ∧
        source.Leaves setting

variable {source : Source} {config : Config}

theorem name_ne_empty (level : Commitment) : level.name ≠ "" := by
  cases level <;> decide

theorem tight_name (level : Commitment) : Text.Tight level.name := by
  apply Text.tight_of_forall
  cases level <;> simp [Commitment.name, Text.isBlank, Text.blankRanges]

theorem name_injective {level level' : Commitment} (hname : level.name = level'.name) :
    level = level' := by
  rw [← ofName?_eq_some_iff, ofName?_eq_some_iff.mpr rfl] at hname
  exact Option.some.inj hname

theorem Writable.text_ne_empty (hwritable : config.Writable) (setting : Setting) :
    config.text setting ≠ "" := by
  cases setting with
  | programId => exact key_text_ne_empty config.program
  | rpcUrl => exact hwritable.url_ne_empty
  | commitment => exact name_ne_empty _
  | confirmTimeout => exact Text.toString_ne_empty _
  | pollInterval => exact Text.toString_ne_empty _

theorem Writable.tight_text (hwritable : config.Writable) (setting : Setting) :
    Text.Tight (config.text setting) := by
  cases setting with
  | programId => exact (writes_text config.program).tight
  | rpcUrl => exact hwritable.tight_url
  | commitment => exact tight_name _
  | confirmTimeout => exact Text.tight_toString _
  | pollInterval => exact Text.tight_toString _

/-- A source that holds a configuration sets every setting to its text or leaves it open. -/
theorem Source.Holds.sets_or_leaves (hholds : source.Holds config) (hwritable : config.Writable)
    (setting : Setting) :
    source.Sets setting (config.text setting) ∨
      setting ≠ .programId ∧ config.text setting = (ofProgram config.program).text setting ∧
        source.Leaves setting := by
  rcases hholds setting with ⟨whole, hwhole, hpadded⟩ | hopen
  · exact .inl ⟨hwritable.text_ne_empty setting, hwritable.tight_text setting, whole, hwhole,
      hpadded⟩
  · exact .inr hopen

theorem givesMilliseconds_toString {span : Nat} (hspan : span < 2 ^ 64) :
    GivesMilliseconds (toString span) span :=
  ⟨Text.denotes_toString span, hspan⟩

/-- If texts stand for one value each, a field is read back from where its text stands or may be
missing. -/
theorem field_of_holds {α : Type} {setting : Setting} {standsFor : String → α → Prop}
    {default value : α}
    (hunique : ∀ text value value', standsFor text value → standsFor text value' → value = value')
    (hdefault : standsFor ((ofProgram config.program).text setting) default)
    (hvalue : standsFor (config.text setting) value) (hholds : source.Holds config)
    (hwritable : config.Writable) : Field source setting standsFor default value := by
  rcases hholds.sets_or_leaves hwritable setting with hset | ⟨-, htext, hleaves⟩
  · exact .set hset hvalue
  · rw [htext] at hvalue
    rw [hunique _ _ _ hvalue hdefault]
    exact .kept hleaves

theorem default_lt (program : Key) :
    (ofProgram program).options.timeout < 2 ^ 64 ∧
      (ofProgram program).options.interval < 2 ^ 64 := by
  simp [ofProgram]

theorem gives_of_holds (hwritable : config.Writable) (hholds : source.Holds config) :
    Gives source config := by
  constructor
  · rcases hholds.sets_or_leaves hwritable .programId with hset | ⟨hneeded, -⟩
    · exact ⟨_, hset, keyOfText_eq_ok_iff.mp (keyOfText_text config.program)⟩
    · exact absurd rfl hneeded
  · apply field_of_holds _ _ _ hholds hwritable
    · rintro text _ _ rfl rfl
      rfl
    · rfl
    · rfl
  · apply field_of_holds _ _ _ hholds hwritable
    · rintro text _ _ rfl hname
      exact name_injective hname
    · rfl
    · rfl
  · apply field_of_holds _ _ _ hholds hwritable
    · intro text _ _ hspan hspan'
      exact hspan.1.unique hspan'.1
    · exact givesMilliseconds_toString (default_lt config.program).1
    · exact givesMilliseconds_toString hwritable.timeout_lt
  · apply field_of_holds _ _ _ hholds hwritable
    · intro text _ _ hspan hspan'
      exact hspan.1.unique hspan'.1
    · exact givesMilliseconds_toString (default_lt config.program).2
    · exact givesMilliseconds_toString hwritable.interval_lt

/-- Whatever configuration is written into the variables of a source is read back from it. -/
theorem read_of_holds (source : Source) (config : Config) (hwritable : config.Writable)
    (hholds : source.Holds config) : read source = .ok config :=
  ((reads_read source).ok_iff config).mpr (gives_of_holds hwritable hholds)

def heldConfig : Config where
  url := "http://127.0.0.1:8899/a b"
  program := ⟨[0, 0, 255] ++ List.replicate 28 7 ++ [58], rfl⟩
  options := { timeout := 18446744073709551615 }

def holdingSource : Source := fun name =>
  if name = "PROGRAM_ID" then some "\u3000 11t6qVT5pEBCinXnLaEqfX1Knk3kTnRLfxmxqiSZtZX\n"
  else if name = "RPC_URL" then some "http://127.0.0.1:8899/a b\u2029"
  else if name = "CONFIRM_TIMEOUT_MS" then some "\t18446744073709551615"
  else if name = "POLL_INTERVAL_MS" then some "\u00a0"
  else none

/-- A key with two leading zeros, an address with a blank inside and the longest span; one of the
two settings at their defaults is missing and the other one is blank. -/
theorem read_of_holds_padded :
    heldConfig.Writable ∧ holdingSource.Holds heldConfig ∧ read holdingSource = .ok heldConfig := by
  have hwritable : heldConfig.Writable := by
    have hurl : Text.trimmed heldConfig.url = heldConfig.url := by decide +kernel
    exact ⟨by decide, (Text.trimmed_eq_iff.mp hurl).2, by decide, by decide⟩
  have hpadded {setting : Setting} {whole : String}
      (htrimmed : Text.trimmed whole = heldConfig.text setting) :
      Text.Padded (heldConfig.text setting) whole := (Text.trimmed_eq_iff.mp htrimmed).1
  have hholds : holdingSource.Holds heldConfig := by
    intro setting
    cases setting with
    | programId => exact .inl ⟨_, rfl, hpadded (by decide +kernel)⟩
    | rpcUrl => exact .inl ⟨_, rfl, hpadded (by decide +kernel)⟩
    | commitment =>
        refine .inr ⟨by decide, rfl, ?_⟩
        intro whole hwhole
        cases hwhole
    | confirmTimeout => exact .inl ⟨_, rfl, hpadded (by decide +kernel)⟩
    | pollInterval =>
        refine .inr ⟨by decide, rfl, ?_⟩
        intro whole hwhole
        obtain rfl := Option.some.inj hwhole
        exact Text.trimmed_eq_empty_iff.mp (by decide)
  exact ⟨hwritable, hholds, read_of_holds holdingSource heldConfig hwritable hholds⟩

end Config

end IssuanceClient
