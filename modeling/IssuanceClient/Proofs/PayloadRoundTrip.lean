import IssuanceClient.Payload.Unpack
import IssuanceClient.Proofs.Outcome
import Mathlib.Logic.Function.Defs

/-!
Writing and reading payloads.  Reading accepts exactly what writing produces; every other byte
string is refused for the one reason that `Malformed` gives.
-/

namespace IssuanceClient

namespace Fieldwise

/-- The tag of a kind is the number of its variant. -/
theorem number_eq_tag (kind : Kind) : number kind = kind.tag := by
  cases kind <;> decide

theorem getElem?_variants (tag : UInt8) : variants[tag.toNat]? = Kind.ofTag? tag := by
  cases hkind : Kind.ofTag? tag with
  | none =>
      have htag := UInt8.lt_iff_toNat_lt.mp ((Kind.ofTag?_eq_none_iff tag).mp hkind)
      exact List.getElem?_eq_none htag
  | some kind =>
      rw [Kind.ofTag?_eq_some_iff.mp hkind]
      cases kind <;> rfl

theorem bind_eq_ok_iff {α β : Type} {reader : Reader α} {next : α → Reader β}
    {input rest : List UInt8} {result : β} :
    (reader >>= next) input = .ok (result, rest) ↔
      ∃ value left, reader input = .ok (value, left) ∧ next value left = .ok (result, rest) := by
  have hbind : (reader >>= next) input = (reader input >>= fun read => next read.1 read.2) := rfl
  rw [hbind, Except.bind_eq_ok_iff, Prod.exists]

theorem pure_eq_ok_iff {α : Type} {value result : α} {input rest : List UInt8} :
    (pure value : Reader α) input = .ok (result, rest) ↔ value = result ∧ input = rest := by
  have hpure : (pure value : Reader α) input = .ok (value, input) := rfl
  rw [hpure, Except.ok.injEq, Prod.mk.injEq]

theorem bytes_eq_ok_iff {count : Nat} {input front rest : List UInt8} :
    bytes count input = .ok (front, rest) ↔ front.length = count ∧ input = front ++ rest := by
  rw [bytes]
  split
  · rename_i hshort
    refine ⟨fun h => (nomatch h), ?_⟩
    rintro ⟨hlength, rfl⟩
    rw [List.length_append] at hshort
    omega
  · rename_i hlong
    rw [Except.ok.injEq, Prod.mk.injEq]
    constructor
    · rintro ⟨rfl, rfl⟩
      exact ⟨List.length_take_of_le (by omega), (List.take_append_drop count input).symm⟩
    · rintro ⟨rfl, rfl⟩
      exact ⟨List.take_left, List.drop_left⟩

/-- A field is read where one was written. -/
theorem map_bytes_eq_ok_iff {α : Type} {width : Nat} {write : α → List UInt8}
    {read : List UInt8 → α} (hcodec : LittleEndian.Codec width write read)
    {input rest : List UInt8} {value : α} :
    (read <$> bytes width) input = .ok (value, rest) ↔ input = write value ++ rest := by
  have hmap : (read <$> bytes width) input =
      (bytes width >>= fun front => pure (read front)) input := rfl
  rw [hmap, bind_eq_ok_iff]
  constructor
  · rintro ⟨front, left, hbytes, hpure⟩
    obtain ⟨hfront, rfl⟩ := bytes_eq_ok_iff.mp hbytes
    obtain ⟨rfl, rfl⟩ := pure_eq_ok_iff.mp hpure
    rw [hcodec.write_read hfront]
  · rintro rfl
    exact ⟨write value, rest, bytes_eq_ok_iff.mpr ⟨hcodec.length_write value, rfl⟩,
      pure_eq_ok_iff.mpr ⟨hcodec.read_write value, rfl⟩⟩

theorem uint64_eq_ok_iff {input rest : List UInt8} {x : UInt64} :
    uint64 input = .ok (x, rest) ↔ input = LittleEndian.ofUInt64 x ++ rest :=
  map_bytes_eq_ok_iff LittleEndian.codec_uint64

theorem int64_eq_ok_iff {input rest : List UInt8} {x : Int64} :
    int64 input = .ok (x, rest) ↔ input = LittleEndian.ofInt64 x ++ rest :=
  map_bytes_eq_ok_iff LittleEndian.codec_int64

theorem uint128_eq_ok_iff {input rest : List UInt8} {x : UInt128} :
    uint128 input = .ok (x, rest) ↔ input = LittleEndian.ofUInt128 x ++ rest :=
  map_bytes_eq_ok_iff LittleEndian.codec_uint128

theorem variant_eq_ok_iff {input rest : List UInt8} {tag : UInt8} :
    variant input = .ok (tag, rest) ↔ input = tag :: rest := by
  cases input with
  | nil => exact ⟨fun h => (nomatch h), fun h => (nomatch h)⟩
  | cons head tail => rw [variant, Except.ok.injEq, Prod.mk.injEq, List.cons.injEq]

/-- A payload of one amount is read where the amount was written. -/
theorem amount_eq_ok_iff {make : UInt64 → Payload} {input rest : List UInt8} {found : Payload} :
    (do return make (← uint64) : Reader Payload) input = .ok (found, rest) ↔
      ∃ amount, make amount = found ∧ input = LittleEndian.ofUInt64 amount ++ rest := by
  constructor
  · intro h
    obtain ⟨amount, left, hamount, hmake⟩ := bind_eq_ok_iff.mp h
    obtain ⟨rfl, rfl⟩ := pure_eq_ok_iff.mp hmake
    exact ⟨amount, rfl, uint64_eq_ok_iff.mp hamount⟩
  · rintro ⟨amount, rfl, rfl⟩
    exact bind_eq_ok_iff.mpr ⟨amount, rest, uint64_eq_ok_iff.mpr rfl, rfl⟩

/-- The field reader finds a payload exactly where one was written. -/
theorem payload_eq_ok_iff {input rest : List UInt8} {found : Payload} :
    payload input = .ok (found, rest) ↔ input = found.pack ++ rest := by
  rw [payload]
  constructor
  · intro h
    obtain ⟨tag, fields, hvariant, hfields⟩ := bind_eq_ok_iff.mp h
    obtain rfl := variant_eq_ok_iff.mp hvariant
    rw [getElem?_variants] at hfields
    cases hkind : Kind.ofTag? tag with
    | none =>
        rw [hkind] at hfields
        exact nomatch hfields
    | some kind =>
        rw [hkind] at hfields
        obtain rfl := Kind.ofTag?_eq_some_iff.mp hkind
        cases kind with
        | initIssuance =>
            obtain ⟨reserve, afterReserve, hreserve, hfields⟩ := bind_eq_ok_iff.mp hfields
            obtain ⟨start, afterStart, hstart, hfields⟩ := bind_eq_ok_iff.mp hfields
            obtain ⟨maturity, afterMaturity, hmaturity, hfields⟩ := bind_eq_ok_iff.mp hfields
            obtain ⟨rfl, rfl⟩ := pure_eq_ok_iff.mp hfields
            rw [uint128_eq_ok_iff.mp hreserve, int64_eq_ok_iff.mp hstart,
              int64_eq_ok_iff.mp hmaturity]
            simp [Payload.pack]
        | fundReserve =>
            obtain ⟨amount, rfl, rfl⟩ := amount_eq_ok_iff.mp hfields
            rfl
        | deposit =>
            obtain ⟨amount, rfl, rfl⟩ := amount_eq_ok_iff.mp hfields
            rfl
        | claimReward =>
            obtain ⟨rfl, rfl⟩ := pure_eq_ok_iff.mp hfields
            rfl
  · rintro rfl
    cases found with
    | initIssuance reserve start maturity =>
        have hpack : (Payload.initIssuance reserve start maturity).pack ++ rest =
            Kind.initIssuance.tag :: (LittleEndian.ofUInt128 reserve ++
              (LittleEndian.ofInt64 start ++ (LittleEndian.ofInt64 maturity ++ rest))) := by
          simp [Payload.pack]
        rw [hpack]
        refine bind_eq_ok_iff.mpr ⟨_, _, variant_eq_ok_iff.mpr rfl, ?_⟩
        exact bind_eq_ok_iff.mpr ⟨reserve, _, uint128_eq_ok_iff.mpr rfl,
          bind_eq_ok_iff.mpr ⟨start, _, int64_eq_ok_iff.mpr rfl,
            bind_eq_ok_iff.mpr ⟨maturity, _, int64_eq_ok_iff.mpr rfl, rfl⟩⟩⟩
    | fundReserve amount =>
        exact bind_eq_ok_iff.mpr ⟨_, _, variant_eq_ok_iff.mpr rfl,
          amount_eq_ok_iff.mpr ⟨amount, rfl, rfl⟩⟩
    | deposit amount =>
        exact bind_eq_ok_iff.mpr ⟨_, _, variant_eq_ok_iff.mpr rfl,
          amount_eq_ok_iff.mpr ⟨amount, rfl, rfl⟩⟩
    | claimReward => rfl

theorem decode_eq_ok_iff {input : List UInt8} {found : Payload} :
    decode input = .ok found ↔ input = found.pack := by
  have hdecode : decode input = .ok found ↔ payload input = .ok (found, []) := by
    rw [decode]
    rcases payload input with fault | ⟨value, _ | ⟨byte, rest⟩⟩
    · exact ⟨fun h => (nomatch h), fun h => (nomatch h)⟩
    · simp only [Except.ok.injEq, Prod.mk.injEq, and_true]
    · simp only [reduceCtorEq, Except.ok.injEq, Prod.mk.injEq, and_false]
  rw [hdecode, payload_eq_ok_iff, List.append_nil]

end Fieldwise

namespace Payload

/-- Why some bytes hold no payload. -/
inductive Malformed : List UInt8 → Failure → Prop
  | empty : Malformed [] .emptyInstruction
  /-- However many bytes follow the tag. -/
  | unknownTag {tag : UInt8} {fields : List UInt8} (htag : 3 < tag) :
      Malformed (tag :: fields) (.unknownTag tag)
  | wrongWidth {kind : Kind} {fields : List UInt8} (hwidth : fields.length + 1 ≠ kind.width) :
      Malformed (kind.tag :: fields) (.wrongWidth kind.tag kind.width (fields.length + 1))

/-- Bytes enough for a kind of payload begin with one. -/
theorem exists_pack_append {kind : Kind} {fields : List UInt8}
    (hwidth : kind.width ≤ fields.length + 1) :
    ∃ payload rest, kind.tag :: fields = Payload.pack payload ++ rest ∧
      kind.width + rest.length = fields.length + 1 := by
  cases kind with
  | initIssuance =>
      have hlength : 16 + 8 + 8 ≤ fields.length := by
        rw [Kind.width] at hwidth
        omega
      obtain ⟨reserve, afterReserve, rfl, hreserve⟩ :=
        LittleEndian.codec_uint128.exists_write_append fields (by omega)
      obtain ⟨start, afterStart, rfl, hstart⟩ :=
        LittleEndian.codec_int64.exists_write_append afterReserve (by omega)
      obtain ⟨maturity, rest, rfl, hmaturity⟩ :=
        LittleEndian.codec_int64.exists_write_append afterStart (by omega)
      refine ⟨.initIssuance reserve start maturity, rest, by simp [pack], ?_⟩
      rw [Kind.width]
      omega
  | fundReserve =>
      rw [Kind.width] at *
      obtain ⟨amount, rest, rfl, hamount⟩ :=
        LittleEndian.codec_uint64.exists_write_append fields (by omega)
      exact ⟨.fundReserve amount, rest, rfl, by omega⟩
  | deposit =>
      rw [Kind.width] at *
      obtain ⟨amount, rest, rfl, hamount⟩ :=
        LittleEndian.codec_uint64.exists_write_append fields (by omega)
      exact ⟨.deposit amount, rest, rfl, by omega⟩
  | claimReward => exact ⟨.claimReward, fields, rfl, by rw [Kind.width]; omega⟩

theorem exists_eq_pack {kind : Kind} {fields : List UInt8}
    (hwidth : fields.length + 1 = kind.width) : ∃ payload, kind.tag :: fields = pack payload := by
  obtain ⟨payload, rest, hpack, hrest⟩ := exists_pack_append (Nat.le_of_eq hwidth.symm)
  obtain rfl : rest = [] := List.eq_nil_of_length_eq_zero (by omega)
  rw [List.append_nil] at hpack
  exact ⟨payload, hpack⟩

theorem pack_eq_cons (payload : Payload) : ∃ fields, payload.pack = payload.kind.tag :: fields := by
  cases payload <;> exact ⟨_, rfl⟩

theorem unpack_pack (payload : Payload) : unpack payload.pack = .ok payload := by
  obtain ⟨fields, hpack⟩ := payload.pack_eq_cons
  have hwidth : fields.length + 1 = payload.kind.width := by
    rw [← length_pack, hpack, List.length_cons]
  have hdecode : Fieldwise.decode (payload.kind.tag :: fields) = .ok payload :=
    Fieldwise.decode_eq_ok_iff.mpr hpack.symm
  rw [hpack]
  simp [unpack, Kind.ofTag, hwidth, hdecode, bind, Except.bind, pure, Except.pure]

theorem Malformed.unpack_eq {data : List UInt8} {failure : Failure}
    (hmalformed : Malformed data failure) : unpack data = .error failure := by
  cases hmalformed with
  | empty => rfl
  | unknownTag htag =>
      have hkind := (Kind.ofTag?_eq_none_iff _).mpr htag
      simp [unpack, Kind.ofTag, hkind, bind, Except.bind]
  | wrongWidth hwidth =>
      simp [unpack, Kind.ofTag, hwidth, bind, Except.bind, throw, throwThe, MonadExceptOf.throw]

/-- Bytes hold a payload, or something is wrong with them. -/
theorem exists_eq_pack_or_malformed (data : List UInt8) :
    (∃ payload, data = pack payload) ∨ ∃ failure, Malformed data failure := by
  cases data with
  | nil => exact Or.inr ⟨_, .empty⟩
  | cons tag fields =>
      cases hkind : Kind.ofTag? tag with
      | none => exact Or.inr ⟨_, .unknownTag ((Kind.ofTag?_eq_none_iff tag).mp hkind)⟩
      | some kind =>
          obtain rfl := Kind.ofTag?_eq_some_iff.mp hkind
          by_cases hwidth : fields.length + 1 = kind.width
          · exact Or.inl (exists_eq_pack hwidth)
          · exact Or.inr ⟨_, .wrongWidth hwidth⟩

theorem unpack_eq_ok_iff {data : List UInt8} {payload : Payload} :
    unpack data = .ok payload ↔ data = payload.pack := by
  constructor
  · intro hunpack
    rcases exists_eq_pack_or_malformed data with ⟨packed, rfl⟩ | ⟨failure, hmalformed⟩
    · rw [unpack_pack, Except.ok.injEq] at hunpack
      rw [hunpack]
    · rw [hmalformed.unpack_eq] at hunpack
      exact nomatch hunpack
  · rintro rfl
    exact unpack_pack payload

theorem unpack_eq_error_iff {data : List UInt8} {failure : Failure} :
    unpack data = .error failure ↔ Malformed data failure := by
  constructor
  · intro hunpack
    rcases exists_eq_pack_or_malformed data with ⟨packed, rfl⟩ | ⟨reason, hmalformed⟩
    · rw [unpack_pack] at hunpack
      exact nomatch hunpack
    · rw [hmalformed.unpack_eq, Except.error.injEq] at hunpack
      rwa [← hunpack]
  · exact Malformed.unpack_eq

theorem pack_injective : Function.Injective pack := by
  intro x y hpack
  have hunpack := unpack_pack x
  rw [hpack, unpack_pack, Except.ok.injEq] at hunpack
  exact hunpack.symm

theorem exists_decode_iff {kind : Kind} {fields : List UInt8} :
    (∃ payload, Fieldwise.decode (kind.tag :: fields) = .ok payload) ↔
      fields.length + 1 = kind.width := by
  constructor
  · rintro ⟨payload, hdecode⟩
    have hpack := Fieldwise.decode_eq_ok_iff.mp hdecode
    have hkind : payload.kind = kind := by
      obtain ⟨rest, hcons⟩ := payload.pack_eq_cons
      rw [hcons, List.cons.injEq, Kind.tag_inj] at hpack
      exact hpack.1.symm
    rw [← hkind, ← length_pack, ← hpack, List.length_cons]
  · intro hwidth
    obtain ⟨payload, hpack⟩ := exists_eq_pack hwidth
    exact ⟨payload, Fieldwise.decode_eq_ok_iff.mpr hpack⟩

/-- Reading accepts exactly what writing produces, and refuses everything else for a stated reason.
The field reader never fails on bytes of the right width. -/
theorem unpack_exact :
    (∀ data payload, unpack data = .ok payload ↔ data = pack payload) ∧
      (∀ data failure, unpack data = .error failure ↔ Malformed data failure) ∧
      Function.Injective pack ∧
      ∀ (kind : Kind) fields, (∃ payload, Fieldwise.decode (kind.tag :: fields) = .ok payload) ↔
        fields.length + 1 = kind.width :=
  ⟨fun _ _ => unpack_eq_ok_iff, fun _ _ => unpack_eq_error_iff, pack_injective,
    fun _ _ => exists_decode_iff⟩

example : unpack [1, 0] = .error (.wrongWidth 1 9 2) := rfl

end Payload

end IssuanceClient
