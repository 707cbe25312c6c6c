import IssuanceClient.Config
import IssuanceClient.Proofs.Base58Codec
import IssuanceClient.Proofs.Outcome
import IssuanceClient.Proofs.SettingText

/-!
Which sources a configuration can be read from, and what is read.  Only the settings' own variables
matter, and of these only what stands between the white space.  Each setting determines one field or
leaves it at its default, and the first that is malformed, in a fixed order, is what a failure
speaks of.
-/

namespace IssuanceClient.Config

/-- A source sets a setting to a text: white space around it does not belong to it. -/
def Source.Sets (source : Source) (setting : Setting) (text : String) : Prop :=
  text ≠ "" ∧ Text.Tight text ∧ ∃ whole, source setting.name = some whole ∧ Text.Padded text whole

/-- A source leaves a setting open: its variable is missing, or holds nothing but white space. -/
def Source.Leaves (source : Source) (setting : Setting) : Prop :=
  ∀ whole, source setting.name = some whole → Text.Blank whole.toList

section Values

variable {source : Source} {setting : Setting} {text : String}

theorem Source.value_eq_some_iff : source.value setting = some text ↔ source.Sets setting text := by
  rw [value, Option.filter_eq_some_iff, Option.map_eq_some_iff, Sets]
  simp only [Text.trimmed_eq_iff, ne_eq, decide_not, Bool.not_eq_true', decide_eq_false_iff_not]
  constructor
  · rintro ⟨⟨whole, hwhole, hpadded, htight⟩, hne⟩
    exact ⟨hne, htight, whole, hwhole, hpadded⟩
  · rintro ⟨hne, htight, whole, hwhole, hpadded⟩
    exact ⟨⟨whole, hwhole, hpadded, htight⟩, hne⟩

theorem Source.value_eq_none_iff : source.value setting = none ↔ source.Leaves setting := by
  rw [value, Option.filter_eq_none_iff, Leaves]
  simp only [Option.map_eq_some_iff, ne_eq, decide_not, Bool.not_eq_true', decide_eq_false_iff_not,
    not_not, forall_exists_index, and_imp, forall_apply_eq_imp_iff₂, Text.trimmed_eq_empty_iff]

theorem Source.Sets.unique {text' : String} (hset : source.Sets setting text)
    (hset' : source.Sets setting text') : text' = text := by
  rw [← value_eq_some_iff] at hset hset'
  rwa [hset', Option.some.injEq] at hset

theorem Source.Sets.not_leaves (hset : source.Sets setting text) : ¬ source.Leaves setting := by
  rw [← value_eq_some_iff] at hset
  rw [← value_eq_none_iff, hset]
  exact Option.some_ne_none text

theorem Source.sets_or_leaves (source : Source) (setting : Setting) :
    (∃ text, source.Sets setting text) ∨ source.Leaves setting := by
  cases hvalue : source.value setting with
  | none => exact .inr (value_eq_none_iff.mp hvalue)
  | some text => exact .inl ⟨text, value_eq_some_iff.mp hvalue⟩

/-- The value of a setting is its trimmed text, where a missing text counts as an empty one. -/
theorem Source.value_eq (source : Source) (setting : Setting) :
    source.value setting =
      (some (Text.trimmed ((source setting.name).getD ""))).filter (· ≠ "") := by
  rw [value]
  cases source setting.name <;> rfl

end Values

/-- The text of a key. -/
def NamesKey (text : String) (key : Key) : Prop :=
  text.length ≤ 44 ∧ Base58.Writes text key.toList

/-- The text of a span in milliseconds. -/
def GivesMilliseconds (text : String) (span : Nat) : Prop :=
  Text.Denotes text span ∧ span < 2 ^ 64

/-- The value of a field: what the setting's text stands for, or the default if the setting is left
open. -/
inductive Field {α : Type} (source : Source) (setting : Setting) (standsFor : String → α → Prop)
    (default : α) : α → Prop
  | set {text : String} {value : α} (hset : source.Sets setting text)
      (hvalue : standsFor text value) : Field source setting standsFor default value
  | kept (hopen : source.Leaves setting) : Field source setting standsFor default default

/-- The configuration that a source gives, field by field. -/
structure Gives (source : Source) (config : Config) : Prop where
  program : ∃ text, source.Sets .programId text ∧ NamesKey text config.program
  url : Field source .rpcUrl Eq (ofProgram config.program).url config.url
  commitment : Field source .commitment (fun text level => text = level.name)
    (ofProgram config.program).options.commitment config.options.commitment
  timeout : Field source .confirmTimeout GivesMilliseconds
    (ofProgram config.program).options.timeout config.options.timeout
  interval : Field source .pollInterval GivesMilliseconds
    (ofProgram config.program).options.interval config.options.interval

/-- The sources from which a configuration can be read. -/
structure WellFormed (source : Source) : Prop where
  program : ∃ text key, source.Sets .programId text ∧ NamesKey text key
  commitment : ∀ text, source.Sets .commitment text →
    text = "processed" ∨ text = "confirmed" ∨ text = "finalized"
  timeout : ∀ text, source.Sets .confirmTimeout text → ∃ span, GivesMilliseconds text span
  interval : ∀ text, source.Sets .pollInterval text → ∃ span, GivesMilliseconds text span

/-- What is wrong with the text of a setting. -/
inductive Malformed (text : String) : Setting → ConfigurationFault → Prop
  | key {fault : TextFault} (hmisnamed : Bytes.Misnamed 32 44 text fault) :
      Malformed text .programId (.invalidKey .programId text fault)
  | commitment (hname : ∀ level : Commitment, text ≠ level.name) :
      Malformed text .commitment (.invalidCommitment text)
  | number {setting : Setting} (hspan : setting = .confirmTimeout ∨ setting = .pollInterval)
      {fault : Text.NumberFault} (hunreadable : Text.Unreadable (2 ^ 64 - 1) text fault) :
      Malformed text setting (.invalidNumber setting text fault)

/-- What is wrong with a setting: its text, or that it has none although it has no default. -/
inductive Source.Offends (source : Source) : Setting → ConfigurationFault → Prop
  | unset (hopen : source.Leaves .programId) : Offends source .programId (.unset .programId)
  | malformed {setting : Setting} {text : String} {fault : ConfigurationFault}
      (hset : source.Sets setting text) (hmalformed : Malformed text setting fault) :
      Offends source setting fault

/-- The fault of the first of some settings that has one. -/
def Source.FirstOffends (source : Source) : List Setting → ConfigurationFault → Prop
  | [], _ => False
  | setting :: rest, fault =>
      source.Offends setting fault ∨
        (∀ other, ¬ source.Offends setting other) ∧ source.FirstOffends rest fault

/-- What a failure says about a setting that offends, word for word. -/
inductive Wording : Setting → ConfigurationFault → String → Prop
  | unset :
      Wording .programId (.unset .programId) "Configuration error: PROGRAM_ID is not set"
  | keySize (text : String) :
      Wording .programId (.invalidKey .programId text .wrongSize)
        ("Configuration error: PROGRAM_ID " ++ Text.quoted text ++ ": String is the wrong size")
  | keyLetter (text : String) :
      Wording .programId (.invalidKey .programId text .notBase58)
        ("Configuration error: PROGRAM_ID " ++ Text.quoted text ++ ": Invalid Base58 string")
  | commitment (text : String) :
      Wording .commitment (.invalidCommitment text)
        ("Configuration error: COMMITMENT must be processed, confirmed or finalized, got " ++
          Text.quoted text)
  | timeoutDigit (text : String) :
      Wording .confirmTimeout (.invalidNumber .confirmTimeout text .invalidDigit)
        ("Configuration error: CONFIRM_TIMEOUT_MS " ++ Text.quoted text ++
          ": invalid digit found in string")
  | timeoutSize (text : String) :
      Wording .confirmTimeout (.invalidNumber .confirmTimeout text .tooLarge)
        ("Configuration error: CONFIRM_TIMEOUT_MS " ++ Text.quoted text ++
          ": number too large to fit in target type")
  | intervalDigit (text : String) :
      Wording .pollInterval (.invalidNumber .pollInterval text .invalidDigit)
        ("Configuration error: POLL_INTERVAL_MS " ++ Text.quoted text ++
          ": invalid digit found in string")
  | intervalSize (text : String) :
      Wording .pollInterval (.invalidNumber .pollInterval text .tooLarge)
        ("Configuration error: POLL_INTERVAL_MS " ++ Text.quoted text ++
          ": number too large to fit in target type")

/-- The settings that can be malformed, in the order in which they are looked at. -/
def checkedSettings : List Setting := [.programId, .commitment, .confirmTimeout, .pollInterval]

section Settings

variable {α : Type} {source : Source} {setting : Setting} {text : String}
  {standsFor : String → α → Prop} {default value : α} {fault : ConfigurationFault}

theorem Source.Sets.field_iff (hset : source.Sets setting text) :
    Field source setting standsFor default value ↔ standsFor text value := by
  constructor
  · intro hfield
    cases hfield with
    | set hother hvalue => rwa [← hset.unique hother]
    | kept hleaves => exact absurd hleaves hset.not_leaves
  · intro hvalue
    exact .set hset hvalue

theorem Source.Leaves.field_iff (hleaves : source.Leaves setting) :
    Field source setting standsFor default value ↔ default = value := by
  constructor
  · intro hfield
    cases hfield with
    | set hset hvalue => exact absurd hleaves hset.not_leaves
    | kept hleaves => rfl
  · rintro rfl
    exact .kept hleaves

theorem Source.Sets.offends_iff (hset : source.Sets setting text) :
    source.Offends setting fault ↔ Malformed text setting fault := by
  constructor
  · intro hoffends
    cases hoffends with
    | unset hleaves => exact absurd hleaves hset.not_leaves
    | malformed hother hmalformed => rwa [← hset.unique hother]
  · intro hmalformed
    exact .malformed hset hmalformed

theorem Source.Leaves.offends_iff (hleaves : source.Leaves setting) :
    source.Offends setting fault ↔ setting = .programId ∧ .unset .programId = fault := by
  constructor
  · intro hoffends
    cases hoffends with
    | unset hleaves => exact ⟨rfl, rfl⟩
    | malformed hset hmalformed => exact absurd hleaves hset.not_leaves
  · rintro ⟨rfl, rfl⟩
    exact .unset hleaves

theorem malformed_programId_iff :
    Malformed text .programId fault ↔
      ∃ reason, Bytes.Misnamed 32 44 text reason ∧ .invalidKey .programId text reason = fault := by
  constructor
  · intro hmalformed
    cases hmalformed with
    | key hmisnamed => exact ⟨_, hmisnamed, rfl⟩
    | number hspan hunreadable => simp at hspan
  · rintro ⟨reason, hmisnamed, rfl⟩
    exact .key hmisnamed

theorem malformed_commitment_iff :
    Malformed text .commitment fault ↔
      (∀ level : Commitment, text ≠ level.name) ∧ .invalidCommitment text = fault := by
  constructor
  · intro hmalformed
    cases hmalformed with
    | commitment hname => exact ⟨hname, rfl⟩
    | number hspan hunreadable => simp at hspan
  · rintro ⟨hname, rfl⟩
    exact .commitment hname

theorem malformed_span_iff (hspan : setting = .confirmTimeout ∨ setting = .pollInterval) :
    Malformed text setting fault ↔
      ∃ reason, Text.Unreadable maxMilliseconds text reason ∧
        .invalidNumber setting text reason = fault := by
  constructor
  · intro hmalformed
    cases hmalformed with
    | key hmisnamed => simp at hspan
    | commitment hname => simp at hspan
    | number hspan hunreadable => exact ⟨_, hunreadable, rfl⟩
  · rintro ⟨reason, hunreadable, rfl⟩
    exact .number hspan hunreadable

end Settings

/-- What a reader gives, and for which faults of the configuration it fails. -/
structure Reads {α : Type} (outcome : Except Failure α) (gives : α → Prop)
    (offends : ConfigurationFault → Prop) : Prop where
  ok_iff : ∀ value, outcome = .ok value ↔ gives value
  error_iff : ∀ failure, outcome = .error failure ↔
    ∃ fault, failure = .configuration fault ∧ offends fault

section Messages

variable {text : String} {setting : Setting} {fault : ConfigurationFault}

/-- A message that names a setting, quotes its text and gives a reason. -/
theorem quoting_message {name reason opening closing : String} (quotation : String)
    (hopening : "Configuration error: " ++ (name ++ " ") = opening)
    (hclosing : ": " ++ reason = closing) :
    "Configuration error: " ++ (name ++ " " ++ quotation ++ ": " ++ reason) =
      opening ++ quotation ++ closing := by
  rw [← hopening, ← hclosing]
  simp only [String.append_assoc]

theorem Wording.of_eq {message : String} (hwording : Wording setting fault message)
    (hmessage : (Failure.configuration fault).message = message) :
    Wording setting fault (Failure.configuration fault).message := by
  rwa [hmessage]

theorem Malformed.wording (hmalformed : Malformed text setting fault) :
    Wording setting fault (Failure.configuration fault).message := by
  cases hmalformed with
  | @key reason hmisnamed =>
      cases reason with
      | wrongSize => exact (Wording.keySize text).of_eq (quoting_message _ rfl rfl)
      | notBase58 => exact (Wording.keyLetter text).of_eq (quoting_message _ rfl rfl)
  | commitment hname =>
      have hmessage : (Failure.configuration (.invalidCommitment text)).message =
          "Configuration error: " ++ "COMMITMENT must be processed, confirmed or finalized, got " ++
            Text.quoted text := (String.append_assoc ..).symm
      exact (Wording.commitment text).of_eq hmessage
  | @number _ hspan reason hunreadable =>
      rcases hspan with rfl | rfl
      · cases reason with
        | invalidDigit => exact (Wording.timeoutDigit text).of_eq (quoting_message _ rfl rfl)
        | tooLarge => exact (Wording.timeoutSize text).of_eq (quoting_message _ rfl rfl)
      · cases reason with
        | invalidDigit => exact (Wording.intervalDigit text).of_eq (quoting_message _ rfl rfl)
        | tooLarge => exact (Wording.intervalSize text).of_eq (quoting_message _ rfl rfl)

theorem Source.Offends.wording {source : Source} (hoffends : source.Offends setting fault) :
    Wording setting fault (Failure.configuration fault).message := by
  cases hoffends with
  | unset hleaves => exact Wording.unset.of_eq rfl
  | malformed hset hmalformed => exact hmalformed.wording

theorem Source.FirstOffends.exists_offends {source : Source} {settings : List Setting}
    (hfirst : source.FirstOffends settings fault) :
    ∃ setting ∈ settings, source.Offends setting fault := by
  induction settings with
  | nil => exact hfirst.elim
  | cons setting rest ih =>
      rcases hfirst with hoffends | ⟨-, hlater⟩
      · exact ⟨setting, List.mem_cons_self, hoffends⟩
      · obtain ⟨later, hmem, hoffends⟩ := ih hlater
        exact ⟨later, List.mem_cons_of_mem setting hmem, hoffends⟩

end Messages

section Readers

variable {α β : Type} {source : Source} {setting : Setting}
  {offends later : ConfigurationFault → Prop}

theorem reads_ok {value : α} {gives : α → Prop} (hgives : ∀ found, gives found ↔ value = found)
    (hoffends : ∀ fault, ¬ offends fault) : Reads (.ok value) gives offends := by
  constructor
  · intro found
    rw [Except.ok.injEq, hgives]
  · intro failure
    simp [hoffends]

theorem reads_error {fault : ConfigurationFault} {gives : α → Prop}
    (hgives : ∀ value, ¬ gives value) (hoffends : ∀ other, offends other ↔ fault = other) :
    Reads (.error (.configuration fault)) gives offends := by
  constructor
  · intro value
    simp [hgives]
  · intro failure
    simp [hoffends, eq_comm]

theorem Reads.of_ok {value : α} {gives : α → Prop} (hreads : Reads (.ok value) gives offends) :
    (∀ found, gives found ↔ value = found) ∧ ∀ fault, ¬ offends fault := by
  constructor
  · intro found
    rw [← hreads.ok_iff, Except.ok.injEq]
  · intro fault hoffends
    have herror := (hreads.error_iff (.configuration fault)).mpr ⟨fault, rfl, hoffends⟩
    cases herror

theorem Reads.of_error {failure : Failure} {gives : α → Prop}
    (hreads : Reads (.error failure) gives offends) :
    ∃ fault, failure = .configuration fault ∧ (∀ value, ¬ gives value) ∧
      ∀ other, offends other ↔ fault = other := by
  obtain ⟨fault, rfl, hoffends⟩ := (hreads.error_iff failure).mp rfl
  refine ⟨fault, rfl, ?_, ?_⟩
  · intro value hgives
    have hok := (hreads.ok_iff value).mpr hgives
    cases hok
  · intro other
    constructor
    · intro hother
      simpa using (hreads.error_iff _).mpr ⟨other, rfl, hother⟩
    · rintro rfl
      exact hoffends

theorem Reads.congr {outcome : Except Failure α} {gives gives' : α → Prop}
    (hreads : Reads outcome gives offends) (hgives : ∀ value, gives value ↔ gives' value)
    (hoffends : ∀ fault, offends fault ↔ later fault) : Reads outcome gives' later := by
  constructor
  · intro value
    rw [hreads.ok_iff, hgives]
  · intro failure
    simp only [hreads.error_iff, hoffends]

theorem reads_pure (value : α) : Reads (pure value) (value = ·) fun _ => False :=
  reads_ok (fun _ => Iff.rfl) (fun _ => not_false)

/-- Two readers in a row: what the second finds wrong counts only if the first finds nothing. -/
theorem Reads.bind {first : Except Failure α} {next : α → Except Failure β} {gives : α → Prop}
    {gives' : α → β → Prop} (hfirst : Reads first gives offends)
    (hnext : ∀ value, Reads (next value) (gives' value) later) :
    Reads (first >>= next) (fun result => ∃ value, gives value ∧ gives' value result)
      (fun fault => offends fault ∨ (∀ other, ¬ offends other) ∧ later fault) := by
  cases first with
  | error failure =>
      obtain ⟨fault, rfl, hgives, hoffends⟩ := hfirst.of_error
      apply reads_error
      · simp [hgives]
      · simp [hoffends]
  | ok value =>
      obtain ⟨hgives, hoffends⟩ := hfirst.of_ok
      apply (hnext value).congr
      · simp [hgives]
      · simp [hoffends]

/-- A reader whose own faults become faults of the configuration. -/
theorem reads_mapError {ε : Type} {outcome : Except ε α} {wrap : ε → ConfigurationFault}
    {gives : α → Prop} {fails : ε → Prop} (hok : ∀ value, outcome = .ok value ↔ gives value)
    (herror : ∀ fault, outcome = .error fault ↔ fails fault) :
    Reads (outcome.mapError fun fault => .configuration (wrap fault)) gives
      (fun other => ∃ fault, fails fault ∧ wrap fault = other) := by
  constructor
  · intro value
    rw [Except.mapError_eq_ok_iff, hok]
  · intro failure
    rw [Except.mapError_eq_error_iff]
    constructor
    · intro hfailed
      obtain ⟨fault, hfault, rfl⟩ := hfailed
      exact ⟨wrap fault, rfl, fault, (herror fault).mp hfault, rfl⟩
    · intro hfailed
      obtain ⟨_, rfl, fault, hfails, rfl⟩ := hfailed
      exact ⟨fault, (herror fault).mpr hfails, rfl⟩

/-- A reader that takes the default for a setting that is left open. -/
theorem reads_field {outcome : Except Failure α} {standsFor : String → α → Prop} {default : α}
    (hneeded : setting ≠ .programId) (hopen : source.Leaves setting → outcome = .ok default)
    (hset : ∀ text, source.Sets setting text →
      Reads outcome (standsFor text) (Malformed text setting)) :
    Reads outcome (Field source setting standsFor default) (source.Offends setting) := by
  rcases source.sets_or_leaves setting with ⟨text, htext⟩ | hleaves
  · exact (hset text htext).congr (fun _ => htext.field_iff.symm) (fun _ => htext.offends_iff.symm)
  · rw [hopen hleaves]
    apply reads_ok
    · intro value
      exact hleaves.field_iff
    · intro fault
      simp [hleaves.offends_iff, hneeded]

theorem reads_program (source : Source) :
    Reads (readProgram source) (fun key => ∃ text, source.Sets .programId text ∧ NamesKey text key)
      (source.Offends .programId) := by
  rcases source.sets_or_leaves .programId with ⟨text, hset⟩ | hleaves
  · rw [readProgram, Source.value_eq_some_iff.mpr hset]
    apply (reads_mapError (fun _ => keyOfText_eq_ok_iff)
      (fun _ => Bytes.ofText_eq_error_iff)).congr
    · intro key
      constructor
      · intro hnames
        exact ⟨text, hset, hnames⟩
      · rintro ⟨other, hother, hnames⟩
        rwa [← hset.unique hother]
    · intro fault
      rw [hset.offends_iff, malformed_programId_iff]
  · rw [readProgram, Source.value_eq_none_iff.mpr hleaves]
    apply reads_error
    · rintro key ⟨text, hset, -⟩
      exact hset.not_leaves hleaves
    · intro fault
      simp [hleaves.offends_iff]

theorem ofName?_eq_some_iff {text : String} {level : Commitment} :
    Commitment.ofName? text = some level ↔ text = level.name := by
  constructor
  · intro hname
    have hlevel := List.find?_some hname
    exact (beq_iff_eq.mp hlevel).symm
  · rintro rfl
    cases level <;> rfl

theorem reads_commitment (source : Source) (default : Commitment) :
    Reads (readCommitment source default)
      (Field source .commitment (fun text level => text = level.name) default)
      (source.Offends .commitment) := by
  apply reads_field (by decide)
  · intro hleaves
    rw [readCommitment, Source.value_eq_none_iff.mpr hleaves]
  · intro text hset
    have hvalue := Source.value_eq_some_iff.mpr hset
    cases hname : Commitment.ofName? text with
    | none =>
        have hnone (level : Commitment) : text ≠ level.name := by
          rw [ne_eq, ← ofName?_eq_some_iff, hname]
          exact (Option.some_ne_none level).symm
        simp only [readCommitment, hvalue, hname]
        apply reads_error hnone
        intro fault
        simp [malformed_commitment_iff, hnone]
    | some level =>
        simp only [readCommitment, hvalue, hname]
        apply reads_ok
        · intro found
          rw [← ofName?_eq_some_iff, hname, Option.some.injEq]
        · intro fault hmalformed
          obtain ⟨hnone, -⟩ := malformed_commitment_iff.mp hmalformed
          exact hnone level (ofName?_eq_some_iff.mp hname)

theorem reads_milliseconds (source : Source) (default : Nat)
    (hspan : setting = .confirmTimeout ∨ setting = .pollInterval) :
    Reads (readMilliseconds source setting default)
      (Field source setting GivesMilliseconds default) (source.Offends setting) := by
  apply reads_field
  · rcases hspan with rfl | rfl <;> decide
  · intro hleaves
    rw [readMilliseconds, Source.value_eq_none_iff.mpr hleaves]
  · intro text hset
    rw [readMilliseconds, Source.value_eq_some_iff.mpr hset]
    apply Reads.congr (reads_mapError (fun _ => Text.readUnsigned_eq_ok_iff)
      (fun _ => Text.readUnsigned_eq_error_iff))
    · intro span
      exact and_congr_right fun _ => Nat.lt_add_one_iff.symm
    · intro fault
      exact (malformed_span_iff hspan).symm

theorem field_rpcUrl_iff {default url : String} :
    Field source .rpcUrl Eq default url ↔ (source.value .rpcUrl).getD default = url := by
  rcases source.sets_or_leaves .rpcUrl with ⟨text, hset⟩ | hleaves
  · rw [Source.value_eq_some_iff.mpr hset, Option.getD_some, hset.field_iff]
  · rw [Source.value_eq_none_iff.mpr hleaves, Option.getD_none, hleaves.field_iff]

theorem reads_read (source : Source) :
    Reads (read source) (Gives source) (source.FirstOffends checkedSettings) := by
  have hsteps := (reads_program source).bind fun program =>
    (reads_commitment source (ofProgram program).options.commitment).bind fun commitment =>
      (reads_milliseconds source (ofProgram program).options.timeout (.inl rfl)).bind fun timeout =>
        (reads_milliseconds source (ofProgram program).options.interval (.inr rfl)).bind
          fun interval => reads_pure (Config.mk
            ((source.value .rpcUrl).getD (ofProgram program).url) program
            ⟨commitment, timeout, interval⟩)
  apply hsteps.congr
  · intro config
    constructor
    · rintro ⟨program, hprogram, commitment, hcommitment, timeout, htimeout, interval, hinterval,
        rfl⟩
      exact ⟨hprogram, field_rpcUrl_iff.mpr rfl, hcommitment, htimeout, hinterval⟩
    · intro hgives
      refine ⟨_, hgives.program, _, hgives.commitment, _, hgives.timeout, _, hgives.interval, ?_⟩
      rw [field_rpcUrl_iff.mp hgives.url]
  · intro fault
    rfl

end Readers

section WellFormed

variable {source : Source}

theorem exists_field {α : Type} {setting : Setting} {standsFor : String → α → Prop}
    (default : α) : (∃ value, Field source setting standsFor default value) ↔
      ∀ text, source.Sets setting text → ∃ value, standsFor text value := by
  constructor
  · rintro ⟨value, hfield⟩ text hset
    exact ⟨value, hset.field_iff.mp hfield⟩
  · intro htexts
    rcases source.sets_or_leaves setting with ⟨text, hset⟩ | hleaves
    · obtain ⟨value, hvalue⟩ := htexts text hset
      exact ⟨value, .set hset hvalue⟩
    · exact ⟨default, .kept hleaves⟩

theorem exists_name_iff {text : String} :
    (∃ level : Commitment, text = level.name) ↔
      text = "processed" ∨ text = "confirmed" ∨ text = "finalized" := by
  constructor
  · rintro ⟨level, rfl⟩
    cases level <;> simp [Commitment.name]
  · rintro (rfl | rfl | rfl)
    · exact ⟨.processed, rfl⟩
    · exact ⟨.confirmed, rfl⟩
    · exact ⟨.finalized, rfl⟩

theorem exists_gives_iff : (∃ config, Gives source config) ↔ WellFormed source := by
  constructor
  · rintro ⟨config, hgives⟩
    obtain ⟨text, hset, hnames⟩ := hgives.program
    refine ⟨⟨text, config.program, hset, hnames⟩, ?_, ?_, ?_⟩
    · intro text hset
      have hlevel := hset.field_iff.mp hgives.commitment
      exact exists_name_iff.mp ⟨_, hlevel⟩
    · intro text hset
      exact ⟨_, hset.field_iff.mp hgives.timeout⟩
    · intro text hset
      exact ⟨_, hset.field_iff.mp hgives.interval⟩
  · intro hwell
    obtain ⟨text, program, hset, hnames⟩ := hwell.program
    obtain ⟨url, hurl⟩ := (exists_field (ofProgram program).url).mpr
      fun text (_ : source.Sets .rpcUrl text) => ⟨text, rfl⟩
    obtain ⟨commitment, hcommitment⟩ := (exists_field (ofProgram program).options.commitment).mpr
      fun text hset => exists_name_iff.mpr (hwell.commitment text hset)
    obtain ⟨timeout, htimeout⟩ := (exists_field (ofProgram program).options.timeout).mpr
      hwell.timeout
    obtain ⟨interval, hinterval⟩ := (exists_field (ofProgram program).options.interval).mpr
      hwell.interval
    exact ⟨⟨url, program, ⟨commitment, timeout, interval⟩⟩,
      ⟨text, hset, hnames⟩, hurl, hcommitment, htimeout, hinterval⟩

/-- Nothing of a source is looked at but the trimmed texts of the settings. -/
theorem read_congr {source' : Source} (hsettings : ∀ setting : Setting,
    Text.trimmed ((source setting.name).getD "") = Text.trimmed ((source' setting.name).getD "")) :
    read source = read source' := by
  have hvalue (setting : Setting) : source.value setting = source'.value setting := by
    rw [Source.value_eq, Source.value_eq, hsettings]
  simp only [read, readProgram, readCommitment, readMilliseconds, hvalue]

/-- Reading a source looks at nothing but the trimmed texts of the five settings.  It succeeds on
exactly the well-formed sources, with the configuration that they give field by field, and fails on
all others for the first setting that offends, which the message names. -/
theorem read_by_settings :
    [Setting.programId, .rpcUrl, .commitment, .confirmTimeout, .pollInterval].map Setting.name =
      ["PROGRAM_ID", "RPC_URL", "COMMITMENT", "CONFIRM_TIMEOUT_MS", "POLL_INTERVAL_MS"] ∧
    (∀ source source' : Source,
      (∀ setting : Setting, Text.trimmed ((source setting.name).getD "") =
        Text.trimmed ((source' setting.name).getD "")) → read source = read source') ∧
    (∀ source : Source,
      ((∃ config, read source = .ok config) ↔ WellFormed source) ∧
      (∀ config, read source = .ok config ↔ Gives source config) ∧
      ∀ failure, read source = .error failure ↔
        ∃ fault, failure = .configuration fault ∧ source.FirstOffends checkedSettings fault) ∧
    ∀ (source : Source) fault, source.FirstOffends checkedSettings fault →
      ∃ setting ∈ checkedSettings, source.Offends setting fault ∧
        Wording setting fault (Failure.configuration fault).message := by
  refine ⟨rfl, fun _ _ hsettings => read_congr hsettings, fun source => ⟨?_, ?_, ?_⟩,
    fun source fault hfirst => ?_⟩
  · rw [← exists_gives_iff]
    exact exists_congr (reads_read source).ok_iff
  · exact (reads_read source).ok_iff
  · exact (reads_read source).error_iff
  · obtain ⟨setting, hsetting, hoffends⟩ := hfirst.exists_offends
    exact ⟨setting, hsetting, hoffends, hoffends.wording⟩

def zeroKeyText : String := "11111111111111111111111111111111"

def bareSource : Source := fun name =>
  if name = "PROGRAM_ID" then some zeroKeyText
  else if name = "POLL_INTERVAL_MS" then some "+007"
  else none

def spacedSource : Source := fun name =>
  if name = "PROGRAM_ID" then some ("\u3000" ++ zeroKeyText ++ "\u0085\n")
  else if name = "COMMITMENT" then some " \t"
  else if name = "POLL_INTERVAL_MS" then some "\u2009+007 "
  else if name = "PATH" then some "no setting"
  else none

def faultySource : Source := fun name =>
  if name = "PROGRAM_ID" then some zeroKeyText
  else if name = "COMMITMENT" then some "Finalized"
  else if name = "CONFIRM_TIMEOUT_MS" then some "18446744073709551616"
  else none

/-- White space, a variable that is no setting and a blank one make no difference, and of two
malformed settings the first one counts and is named. -/
theorem read_by_settings_spaced :
    (∀ setting : Setting, Text.trimmed ((spacedSource setting.name).getD "") =
      Text.trimmed ((bareSource setting.name).getD "")) ∧
    read spacedSource = .ok ⟨defaultUrl, Bytes.zero 32, ⟨.confirmed, 30000, 7⟩⟩ ∧
    WellFormed spacedSource ∧
    faultySource.FirstOffends checkedSettings (.invalidCommitment "Finalized") ∧
    ∃ setting ∈ checkedSettings, Wording setting (.invalidCommitment "Finalized")
      ("Configuration error: COMMITMENT must be processed, confirmed or finalized, " ++
        "got \"Finalized\"") := by
  have hsettings : ∀ setting : Setting, Text.trimmed ((spacedSource setting.name).getD "") =
      Text.trimmed ((bareSource setting.name).getD "") := by
    intro setting
    cases setting <;> decide
  obtain ⟨-, hcongr, hreads, hmessages⟩ := read_by_settings
  have hbare : read bareSource = .ok ⟨defaultUrl, Bytes.zero 32, ⟨.confirmed, 30000, 7⟩⟩ := by
    decide +kernel
  have hspaced := (hcongr _ _ hsettings).trans hbare
  have hfaulty : read faultySource = .error (.configuration (.invalidCommitment "Finalized")) := by
    decide +kernel
  obtain ⟨fault, hfault, hoffends⟩ := ((hreads faultySource).2.2 _).mp hfaulty
  rw [Failure.configuration.injEq] at hfault
  subst hfault
  obtain ⟨setting, hsetting, -, hwording⟩ := hmessages faultySource _ hoffends
  have hmessage : (Failure.configuration (.invalidCommitment "Finalized")).message =
      "Configuration error: COMMITMENT must be processed, confirmed or finalized, " ++
        "got \"Finalized\"" := by
    decide +kernel
  rw [hmessage] at hwording
  exact ⟨hsettings, hspaced, (hreads spacedSource).1.mp ⟨_, hspaced⟩, hoffends, setting, hsetting,
    hwording⟩

end WellFormed

end IssuanceClient.Config
