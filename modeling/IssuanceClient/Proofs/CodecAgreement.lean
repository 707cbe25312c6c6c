import IssuanceClient.Proofs.PayloadRoundTrip

/-!
One format, two codecs.  The client has a table of tags and looks at the tag and at the width before
it reads anything; the program numbers its variants as it declares them, goes field by field and
notices the width last.  The numbers are the tags, so both write the same bytes and accept the same
bytes, and where they refuse, the one's reason tells the other's.
-/

namespace IssuanceClient

namespace Fieldwise

section RunsOut

variable {α β : Type}

/-- Nothing but the end of the input makes the reader fail. -/
def RunsOutOnly (reader : Reader α) : Prop :=
  ∀ input fault, reader input = .error fault → fault = .unexpectedEnd

theorem bind_of_ok {reader : Reader α} {next : α → Reader β} {input rest : List UInt8} {value : α}
    (hreader : reader input = .ok (value, rest)) : (reader >>= next) input = next value rest := by
  have hbind : (reader >>= next) input = (reader input >>= fun read => next read.1 read.2) := rfl
  rw [hbind, hreader]
  rfl

theorem bind_of_error {reader : Reader α} {next : α → Reader β} {input : List UInt8} {fault : Fault}
    (hreader : reader input = .error fault) : (reader >>= next) input = .error fault := by
  have hbind : (reader >>= next) input = (reader input >>= fun read => next read.1 read.2) := rfl
  rw [hbind, hreader]
  rfl

theorem runsOutOnly_pure (value : α) : RunsOutOnly (pure value) := by
  intro input fault hfault
  exact nomatch hfault

theorem RunsOutOnly.bind {reader : Reader α} {next : α → Reader β} (hreader : RunsOutOnly reader)
    (hnext : ∀ value, RunsOutOnly (next value)) : RunsOutOnly (reader >>= next) := by
  intro input fault hfault
  cases hread : reader input with
  | error first =>
      rw [bind_of_error hread] at hfault
      obtain rfl := Except.error.inj hfault
      exact hreader input first hread
  | ok read =>
      rw [bind_of_ok hread] at hfault
      exact hnext read.1 read.2 fault hfault

theorem runsOutOnly_bytes (count : Nat) : RunsOutOnly (bytes count) := by
  intro input fault hfault
  rw [bytes] at hfault
  split at hfault
  · exact (Except.error.inj hfault).symm
  · cases hfault

theorem runsOutOnly_map_bytes (read : List UInt8 → α) (count : Nat) :
    RunsOutOnly (read <$> bytes count) :=
  (runsOutOnly_bytes count).bind fun front => runsOutOnly_pure (read front)

end RunsOut

/-- The fields of a payload whose kind is known. -/
def fieldsOf : Kind → Reader Payload
  | .initIssuance => do return .initIssuance (← uint128) (← int64) (← int64)
  | .fundReserve => do return .fundReserve (← uint64)
  | .deposit => do return .deposit (← uint64)
  | .claimReward => return .claimReward

theorem payload_tag_cons (kind : Kind) (fields : List UInt8) :
    payload (kind.tag :: fields) = fieldsOf kind fields := by
  cases kind <;> rfl

/-- Behind a known tag the reader can only run out of input. -/
theorem runsOutOnly_fieldsOf (kind : Kind) : RunsOutOnly (fieldsOf kind) := by
  have hamount (make : UInt64 → Payload) : RunsOutOnly (do return make (← uint64)) :=
    (runsOutOnly_map_bytes _ 8).bind fun amount => runsOutOnly_pure (make amount)
  cases kind with
  | initIssuance =>
      refine (runsOutOnly_map_bytes _ 16).bind fun reserve => ?_
      refine (runsOutOnly_map_bytes _ 8).bind fun start => ?_
      refine (runsOutOnly_map_bytes _ 8).bind fun maturity => ?_
      exact runsOutOnly_pure _
  | fundReserve => exact hamount .fundReserve
  | deposit => exact hamount .deposit
  | claimReward => exact runsOutOnly_pure _

/-- What is read takes up as many bytes as the tag announces. -/
theorem width_add_length_of_payload {kind : Kind} {fields rest : List UInt8} {found : Payload}
    (hfound : payload (kind.tag :: fields) = .ok (found, rest)) :
    kind.width + rest.length = fields.length + 1 := by
  have hinput := payload_eq_ok_iff.mp hfound
  have hkind : kind = found.kind := by
    obtain ⟨tail, hpack⟩ := found.pack_eq_cons
    rw [hpack, List.cons_append, List.cons.injEq, Kind.tag_inj] at hinput
    exact hinput.1
  rw [hkind, ← found.length_pack, ← List.length_append, ← hinput, List.length_cons]

theorem decode_of_short {kind : Kind} {fields : List UInt8}
    (hshort : fields.length + 1 < kind.width) :
    decode (kind.tag :: fields) = .error .unexpectedEnd := by
  cases hread : payload (kind.tag :: fields) with
  | error fault =>
      have hfault := hread
      rw [payload_tag_cons] at hfault
      rw [decode, hread, runsOutOnly_fieldsOf kind fields fault hfault]
  | ok read =>
      have hwidth := width_add_length_of_payload hread
      omega

theorem decode_of_long {kind : Kind} {fields : List UInt8}
    (hlong : kind.width < fields.length + 1) :
    decode (kind.tag :: fields) = .error .trailingBytes := by
  obtain ⟨found, rest, hinput, hwidth⟩ := Payload.exists_pack_append (Nat.le_of_lt hlong)
  rw [decode, payload_eq_ok_iff.mpr hinput]
  cases rest with
  | nil =>
      rw [List.length_nil] at hwidth
      omega
  | cons byte rest => rfl

theorem decode_of_unknownTag {tag : UInt8} {fields : List UInt8} (htag : 3 < tag) :
    decode (tag :: fields) = .error (.unknownVariant tag) := by
  have hpayload : payload (tag :: fields) = .error (.unknownVariant tag) := by
    have hvariant : variant (tag :: fields) = .ok (tag, fields) := rfl
    rw [payload, bind_of_ok hvariant, getElem?_variants, (Kind.ofTag?_eq_none_iff tag).mpr htag]
    rfl
  rw [decode, hpayload]

end Fieldwise

namespace Payload

/-- Two reasons to refuse the same bytes: the client's, and the one at which the field reader
stops. -/
inductive Corresponds : Failure → Fieldwise.Fault → Prop
  | empty : Corresponds .emptyInstruction .unexpectedEnd
  | short {tag : UInt8} {expected actual : Nat} (hshort : actual < expected) :
      Corresponds (.wrongWidth tag expected actual) .unexpectedEnd
  | unknown (tag : UInt8) : Corresponds (.unknownTag tag) (.unknownVariant tag)
  | long {tag : UInt8} {expected actual : Nat} (hlong : expected < actual) :
      Corresponds (.wrongWidth tag expected actual) .trailingBytes

/-- The results of two readers that accept the same payload, or refuse for reasons that
correspond. -/
inductive Agree : Except Failure Payload → Except Fieldwise.Fault Payload → Prop
  | accepted (payload : Payload) : Agree (.ok payload) (.ok payload)
  | refused {failure : Failure} {fault : Fieldwise.Fault} (hreasons : Corresponds failure fault) :
      Agree (.error failure) (.error fault)

theorem pack_eq_encode (payload : Payload) : payload.pack = Fieldwise.encode payload := by
  cases payload <;>
    simp [pack, kind, Fieldwise.encode, Fieldwise.number_eq_tag, Fieldwise.fields,
      Fieldwise.Field.encode]

/-- Variants are numbered from zero in the order of declaration. -/
theorem toNat_number_kind (payload : Payload) :
    (Fieldwise.number payload.kind).toNat = payload.ctorIdx := by
  cases payload <;> rfl

/-- For whatever reason the client refuses some bytes, the field reader refuses them for the reason
that corresponds. -/
theorem Malformed.exists_decode_eq {data : List UInt8} {failure : Failure}
    (hmalformed : Malformed data failure) :
    ∃ fault, Fieldwise.decode data = .error fault ∧ Corresponds failure fault := by
  cases hmalformed with
  | empty => exact ⟨_, rfl, .empty⟩
  | unknownTag htag => exact ⟨_, Fieldwise.decode_of_unknownTag htag, .unknown _⟩
  | wrongWidth hwidth =>
      rcases Nat.lt_or_gt_of_ne hwidth with hshort | hlong
      · exact ⟨_, Fieldwise.decode_of_short hshort, .short hshort⟩
      · exact ⟨_, Fieldwise.decode_of_long hlong, .long hlong⟩

/-- The client's tags are the numbers that the program's variants have by the order of their
declaration.  So client and program write the same bytes for a payload, and of every byte string
both make the same payload or none, for reasons that correspond. -/
theorem codecs_agree :
    (∀ payload : Payload, (Fieldwise.number payload.kind).toNat = payload.ctorIdx) ∧
      (∀ kind, Fieldwise.number kind = kind.tag) ∧
      (∀ tag : UInt8, Fieldwise.variants[tag.toNat]? = Kind.ofTag? tag) ∧
      (∀ payload : Payload, payload.pack = Fieldwise.encode payload) ∧
      (∀ data payload, unpack data = .ok payload ↔ Fieldwise.decode data = .ok payload) ∧
      ∀ data, Agree (unpack data) (Fieldwise.decode data) := by
  refine ⟨toNat_number_kind, Fieldwise.number_eq_tag, Fieldwise.getElem?_variants, pack_eq_encode,
    fun data payload => ?_, fun data => ?_⟩
  · rw [unpack_eq_ok_iff, Fieldwise.decode_eq_ok_iff]
  · rcases exists_eq_pack_or_malformed data with ⟨payload, hpack⟩ | ⟨failure, hmalformed⟩
    · rw [unpack_eq_ok_iff.mpr hpack, Fieldwise.decode_eq_ok_iff.mpr hpack]
      exact .accepted payload
    · obtain ⟨fault, hdecode, hreasons⟩ := hmalformed.exists_decode_eq
      rw [hmalformed.unpack_eq, hdecode]
      exact .refused hreasons

/-- An unknown tag is refused for itself, whatever the width. -/
example : Agree (unpack [9, 0]) (Fieldwise.decode [9, 0]) := .refused (.unknown 9)

end Payload

end IssuanceClient
