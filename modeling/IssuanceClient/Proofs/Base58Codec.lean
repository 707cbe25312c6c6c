import IssuanceClient.Key
import Mathlib.Data.List.TakeWhile
import Mathlib.Data.Nat.Digits.Lemmas

/-!
Base58 as a numeral system.  A text and a byte string belong together if they have equally many
leading zeros and, behind them, the same value.  Writing and reading are the two directions of this
relation, so every byte string has one text, and a key's text never passes the length limit.
-/

namespace IssuanceClient

theorem ofDigits_eq (base : Nat) (numeral : List Nat) :
    ofDigits base numeral = Nat.ofDigits base numeral := by
  induction numeral with
  | nil => rfl
  | cons digit rest ih => rw [ofDigits, Nat.ofDigits_cons, ih]

theorem digits_eq {base : Nat} (hbase : 1 < base) (n : Nat) :
    digits base n = Nat.digits base n := by
  induction n using Nat.strongRecOn with
  | ind n ih =>
      rcases Nat.eq_zero_or_pos n with rfl | hn
      · rw [digits_zero, Nat.digits_zero]
      · rw [digits_of_pos hbase hn, Nat.digits_def' hbase hn, ih _ (Nat.div_lt_self hn hbase)]

namespace Base58

/-- Two numerals, most significant digit first, that have equally many leading zeros and the same
value behind them. -/
inductive SameNumber (base base' : Nat) : List Nat → List Nat → Prop
  | intro (zeros : Nat) {rest rest' : List Nat} (hrest : rest.head? ≠ some 0)
      (hrest' : rest'.head? ≠ some 0)
      (hvalue : Nat.ofDigits base rest.reverse = Nat.ofDigits base' rest'.reverse) :
      SameNumber base base' (List.replicate zeros 0 ++ rest) (List.replicate zeros 0 ++ rest')

/-- A numeral in another base.  Its leading zeros are kept one by one. -/
def rebase (base base' : Nat) (numeral : List Nat) : List Nat :=
  numeral.takeWhile (· == 0) ++ (digits base' (ofDigits base numeral.reverse)).reverse

section Numerals

variable {base base' : Nat} {numeral numeral' rest : List Nat}

theorem SameNumber.symm (hsame : SameNumber base base' numeral numeral') :
    SameNumber base' base numeral' numeral := by
  cases hsame with
  | intro zeros hrest hrest' hvalue => exact .intro zeros hrest' hrest hvalue.symm

theorem exists_eq_replicate_append (numeral : List Nat) :
    ∃ zeros rest, numeral = List.replicate zeros 0 ++ rest ∧ rest.head? ≠ some 0 := by
  induction numeral with
  | nil => exact ⟨0, [], rfl, by simp⟩
  | cons digit rest ih =>
      rcases Nat.eq_zero_or_pos digit with rfl | hdigit
      · obtain ⟨zeros, front, rfl, hfront⟩ := ih
        exact ⟨zeros + 1, front, rfl, hfront⟩
      · refine ⟨0, digit :: rest, rfl, ?_⟩
        simp only [List.head?_cons, ne_eq, Option.some.injEq]
        omega

theorem takeWhile_replicate_append (zeros : Nat) (hrest : rest.head? ≠ some 0) :
    (List.replicate zeros 0 ++ rest).takeWhile (· == 0) = List.replicate zeros 0 := by
  rw [List.takeWhile_append_of_pos (by simp)]
  cases rest with
  | nil => simp
  | cons digit rest =>
      have hdigit : digit ≠ 0 := by simpa using hrest
      simp [hdigit]

theorem rebase_replicate_append (hbase' : 1 < base') (zeros : Nat) (hrest : rest.head? ≠ some 0) :
    rebase base base' (List.replicate zeros 0 ++ rest) =
      List.replicate zeros 0 ++ (Nat.digits base' (Nat.ofDigits base rest.reverse)).reverse := by
  rw [rebase, takeWhile_replicate_append zeros hrest, List.reverse_append, List.reverse_replicate,
    ofDigits_eq, digits_eq hbase', Nat.ofDigits_append_replicate_zero]

theorem head?_reverse_digits_ne_zero (base' n : Nat) :
    (Nat.digits base' n).reverse.head? ≠ some 0 := by
  rcases Nat.eq_zero_or_pos n with rfl | hn
  · simp
  · have hdigits : Nat.digits base' n ≠ [] := Nat.digits_ne_nil_iff_ne_zero.mpr (by omega)
    rw [List.head?_reverse, List.getLast?_eq_some_getLast hdigits, ne_eq, Option.some.injEq]
    exact Nat.getLast_digit_ne_zero base' (by omega)

/-- A numeral without leading zeros is the digits of its value. -/
theorem digits_ofDigits_reverse (hbase : 1 < base) (hdigits : ∀ digit ∈ rest, digit < base)
    (hrest : rest.head? ≠ some 0) :
    Nat.digits base (Nat.ofDigits base rest.reverse) = rest.reverse := by
  apply Nat.digits_ofDigits base hbase
  · intro digit hdigit
    exact hdigits digit (List.mem_reverse.mp hdigit)
  · intro hreverse hlast
    rw [← List.getLast?_reverse, List.getLast?_eq_some_getLast hreverse, hlast] at hrest
    exact hrest rfl

/-- The same number in another base is found by conversion, and there is no other. -/
theorem sameNumber_iff_eq_rebase (hbase' : 1 < base')
    (hdigits : ∀ digit ∈ numeral', digit < base') :
    SameNumber base base' numeral numeral' ↔ numeral' = rebase base base' numeral := by
  constructor
  · intro hsame
    cases hsame with
    | intro zeros hrest hrest' hvalue =>
        have hdigits' := digits_ofDigits_reverse hbase'
          (fun digit hdigit => hdigits digit (List.mem_append_right _ hdigit)) hrest'
        rw [rebase_replicate_append hbase' zeros hrest, hvalue, hdigits', List.reverse_reverse]
  · intro hrebase
    obtain ⟨zeros, rest, rfl, hrest⟩ := exists_eq_replicate_append numeral
    rw [hrebase, rebase_replicate_append hbase' zeros hrest]
    refine .intro zeros hrest (head?_reverse_digits_ne_zero _ _) ?_
    rw [List.reverse_reverse, Nat.ofDigits_digits]

theorem rebase_lt (hbase' : 1 < base') (numeral : List Nat) :
    ∀ digit ∈ rebase base base' numeral, digit < base' := by
  intro digit hdigit
  obtain ⟨zeros, rest, rfl, hrest⟩ := exists_eq_replicate_append numeral
  rw [rebase_replicate_append hbase' zeros hrest, List.mem_append, List.mem_reverse] at hdigit
  rcases hdigit with hzero | hdigit
  · rw [List.eq_of_mem_replicate hzero]
    omega
  · exact Nat.digits_lt_base hbase' hdigit

end Numerals

/-- The format: the letters of a text and the bytes that it stands for are one number. -/
def Writes (text : String) (bytes : List UInt8) : Prop :=
  ∃ values : List Nat, (∀ value ∈ values, value < 58) ∧
    text.toList = values.map letter ∧ SameNumber 58 256 values (bytes.map UInt8.toNat)

theorem value?_letter {digit : Nat} (hdigit : digit < 58) : value? (letter digit) = some digit := by
  have hletters : ∀ digit : Fin 58, value? (letter digit) = some digit.val := by decide
  exact hletters ⟨digit, hdigit⟩

theorem value?_eq_some_iff {c : Char} {digit : Nat} :
    value? c = some digit ↔ digit < 58 ∧ c = letter digit := by
  constructor
  · intro hvalue
    obtain ⟨hdigit, hletter, -⟩ := List.idxOf?_eq_some_iff.mp hvalue
    refine ⟨hdigit, ?_⟩
    rw [letter, List.getD_eq_getElem?_getD, List.getElem?_eq_getElem hdigit, hletter]
    rfl
  · intro hletter
    obtain ⟨hdigit, rfl⟩ := hletter
    exact value?_letter hdigit

theorem mapM_value?_eq_some_iff {chars : List Char} {values : List Nat} :
    chars.mapM value? = some values ↔
      (∀ value ∈ values, value < 58) ∧ chars = values.map letter := by
  induction chars generalizing values with
  | nil =>
      rw [List.mapM_nil]
      cases values <;> simp
  | cons c chars ih =>
      simp only [List.mapM_cons, Option.bind_eq_bind, Option.bind_eq_some_iff, value?_eq_some_iff,
        ih, Option.pure_def, Option.some.injEq]
      constructor
      · rintro ⟨digit, ⟨hdigit, rfl⟩, rest, ⟨hrest, rfl⟩, rfl⟩
        exact ⟨List.forall_mem_cons.mpr ⟨hdigit, hrest⟩, rfl⟩
      · rintro ⟨hvalues, hchars⟩
        obtain ⟨digit, rest, rfl, hdigit, hrest⟩ := List.map_eq_cons_iff.mp hchars.symm
        rw [List.forall_mem_cons] at hvalues
        exact ⟨digit, ⟨hvalues.1, hdigit.symm⟩, rest, ⟨hvalues.2, hrest.symm⟩, rfl⟩

theorem mapM_value?_eq_none_iff {chars : List Char} :
    chars.mapM value? = none ↔ ∃ c ∈ chars, c ∉ alphabet := by
  induction chars with
  | nil => simp
  | cons c chars ih =>
      have hc : value? c = none ↔ c ∉ alphabet := List.idxOf?_eq_none_iff
      rw [List.mapM_cons, List.exists_mem_cons_iff, ← ih, ← hc]
      cases value? c with
      | none => simp
      | some digit => cases chars.mapM value? <;> simp

/-- The zeros that stand for the leading zeros of a numeral. -/
theorem map_takeWhile_zero {α : Type} (f : Nat → α) (numeral : List Nat) :
    (numeral.takeWhile (· == 0)).map (fun _ => f 0) = (numeral.takeWhile (· == 0)).map f := by
  apply List.map_congr_left
  intro digit hdigit
  have hzero : digit = 0 := by simpa using List.mem_takeWhile_imp hdigit
  rw [hzero]

theorem encodeChars_eq (bytes : List UInt8) :
    encodeChars bytes = (rebase 256 58 (bytes.map UInt8.toNat)).map letter := by
  have hzero : ((· == 0) ∘ UInt8.toNat : UInt8 → Bool) = (· == 0) := by
    funext byte
    rw [Function.comp_apply, Bool.eq_iff_iff, beq_iff_eq, beq_iff_eq, ← UInt8.toNat_inj]
    rfl
  have hzeros := map_takeWhile_zero letter (bytes.map UInt8.toNat)
  rw [List.takeWhile_map, hzero, List.map_map] at hzeros
  rw [rebase, List.map_append, List.takeWhile_map, hzero, ← hzeros, ← List.map_reverse]
  rfl

theorem ofValues_eq (values : List Nat) :
    ofValues values = (rebase 58 256 values).map UInt8.ofNat := by
  rw [rebase, List.map_append, ← map_takeWhile_zero UInt8.ofNat]
  rfl

theorem toNat_lt_of_mem_map {bytes : List UInt8} :
    ∀ digit ∈ bytes.map UInt8.toNat, digit < 256 := by
  intro digit hdigit
  obtain ⟨byte, -, rfl⟩ := List.mem_map.mp hdigit
  exact byte.toNat_lt

theorem map_toNat_eq_iff {bytes : List UInt8} {numeral : List Nat}
    (hnumeral : ∀ digit ∈ numeral, digit < 256) :
    bytes.map UInt8.toNat = numeral ↔ numeral.map UInt8.ofNat = bytes := by
  constructor
  · rintro rfl
    rw [List.map_map]
    exact List.map_id'' (fun _ => UInt8.ofNat_toNat) bytes
  · rintro rfl
    rw [List.map_map]
    refine (List.map_congr_left fun digit hdigit => ?_).trans (List.map_id _)
    exact UInt8.toNat_ofNat_of_lt' (hnumeral digit hdigit)

theorem encode_eq_iff {bytes : List UInt8} {text : String} :
    encode bytes = text ↔ Writes text bytes := by
  have hdigits := @rebase_lt 256 58 (by decide) (bytes.map UInt8.toNat)
  rw [encode, encodeChars_eq, Writes]
  constructor
  · rintro rfl
    refine ⟨_, hdigits, String.toList_ofList, ?_⟩
    exact ((sameNumber_iff_eq_rebase (by decide) hdigits).mpr rfl).symm
  · rintro ⟨values, hvalues, htext, hsame⟩
    rw [← (sameNumber_iff_eq_rebase (by decide) hvalues).mp hsame.symm, ← htext,
      String.ofList_toList]

theorem decode?_eq_some_iff {text : String} {bytes : List UInt8} :
    decode? text = some bytes ↔ Writes text bytes := by
  rw [decode?, Option.map_eq_some_iff, Writes]
  refine exists_congr fun values => ?_
  rw [mapM_value?_eq_some_iff, ofValues_eq, and_assoc,
    sameNumber_iff_eq_rebase (by decide) toNat_lt_of_mem_map,
    map_toNat_eq_iff (rebase_lt (by decide) values)]

theorem decode?_eq_none_iff {text : String} :
    decode? text = none ↔ ∃ c ∈ text.toList, c ∉ alphabet := by
  rw [decode?, Option.map_eq_none_iff, mapM_value?_eq_none_iff]

theorem Writes.mem_alphabet {text : String} {bytes : List UInt8} (hwrites : Writes text bytes) :
    ∀ c ∈ text.toList, c ∈ alphabet := by
  intro c hc
  by_contra hforeign
  have hnone := decode?_eq_none_iff.mpr ⟨c, hc, hforeign⟩
  rw [decode?_eq_some_iff.mpr hwrites] at hnone
  cases hnone

/-- A text is read as one byte string, so no two byte strings have the same text. -/
theorem encode_injective : Function.Injective encode := by
  intro bytes other hencode
  have hbytes := decode?_eq_some_iff.mpr (encode_eq_iff.mp hencode)
  have hother := decode?_eq_some_iff.mpr (encode_eq_iff.mp (rfl : encode other = encode other))
  exact Option.some.inj (hbytes.symm.trans hother)

section Length

variable {base base' : Nat}

/-- Fewer digits are not needed in a smaller base, so leading zeros only make room. -/
theorem length_rebase_le (hbase' : 1 < base') (hle : base' ≤ base) {numeral : List Nat}
    (hdigits : ∀ digit ∈ numeral, digit < base) {longest : Nat}
    (hfits : base ^ numeral.length ≤ base' ^ longest) :
    (rebase base base' numeral).length ≤ longest := by
  obtain ⟨zeros, rest, rfl, hrest⟩ := exists_eq_replicate_append numeral
  rw [List.length_append, List.length_replicate, Nat.pow_add] at hfits
  have hpow : base' ^ zeros ≤ base ^ zeros := Nat.pow_le_pow_left hle zeros
  have hzeros : zeros ≤ longest := by
    apply (Nat.pow_le_pow_iff_right hbase').mp
    calc base' ^ zeros ≤ base ^ zeros := hpow
      _ ≤ base ^ zeros * base ^ rest.length :=
        Nat.le_mul_of_pos_right _ (Nat.pow_pos (by omega))
      _ ≤ base' ^ longest := hfits
  have hvalue : Nat.ofDigits base rest.reverse < base ^ rest.length := by
    have hreverse : ∀ digit ∈ rest.reverse, digit < base := by
      intro digit hdigit
      exact hdigits digit (List.mem_append_right _ (List.mem_reverse.mp hdigit))
    have hbound := Nat.ofDigits_lt_base_pow_length (by omega) hreverse
    rwa [List.length_reverse] at hbound
  -- Each of the zeros takes up more room before the conversion than after it.
  have hrest' : base ^ rest.length ≤ base' ^ (longest - zeros) := by
    apply Nat.le_of_mul_le_mul_left _ (Nat.pow_pos (by omega) : 0 < base' ^ zeros)
    calc base' ^ zeros * base ^ rest.length ≤ base ^ zeros * base ^ rest.length :=
        Nat.mul_le_mul_right _ hpow
      _ ≤ base' ^ longest := hfits
      _ = base' ^ zeros * base' ^ (longest - zeros) := by
        rw [← Nat.pow_add, Nat.add_sub_cancel' hzeros]
  have hlength := (Nat.digits_length_le_iff hbase' _).mpr (Nat.lt_of_lt_of_le hvalue hrest')
  rw [rebase_replicate_append hbase' zeros hrest, List.length_append, List.length_replicate,
    List.length_reverse]
  omega

end Length

/-- Every letter takes up one byte. -/
theorem utf8ByteSize_letters {values : List Nat} (hvalues : ∀ value ∈ values, value < 58) :
    (String.ofList (values.map letter)).utf8ByteSize = values.length := by
  have hletters : ∀ digit : Fin 58, (letter digit).utf8Size = 1 := by decide
  induction values with
  | nil => rfl
  | cons value values ih =>
      rw [List.forall_mem_cons] at hvalues
      obtain ⟨hvalue, hvalues⟩ := hvalues
      rw [List.map_cons, String.ofList_cons, String.utf8ByteSize_append,
        String.utf8ByteSize_singleton, hletters ⟨value, hvalue⟩, ih hvalues, List.length_cons,
        Nat.add_comm]

theorem Writes.utf8ByteSize_eq {text : String} {bytes : List UInt8} (hwrites : Writes text bytes) :
    text.utf8ByteSize = text.length := by
  obtain ⟨values, hvalues, htext, -⟩ := hwrites
  rw [← String.length_toList, htext, List.length_map, ← utf8ByteSize_letters hvalues, ← htext,
    String.ofList_toList]

theorem Writes.length_le {text : String} {bytes : List UInt8} (hwrites : Writes text bytes)
    {longest : Nat} (hfits : 256 ^ bytes.length ≤ 58 ^ longest) : text.length ≤ longest := by
  rw [← encode_eq_iff.mpr hwrites, encode, String.length_ofList, encodeChars_eq, List.length_map]
  apply length_rebase_le (by decide) (by decide) toNat_lt_of_mem_map
  rwa [List.length_map]

end Base58

namespace Bytes

/-- Why a text names no byte string of some width: it is too long, or it has a foreign character,
or it stands for another number of bytes. -/
inductive Misnamed (n longest : Nat) (text : String) : TextFault → Prop
  | tooLong (hlong : longest < text.utf8ByteSize) : Misnamed n longest text .wrongSize
  | notBase58 (hshort : text.utf8ByteSize ≤ longest) {c : Char} (hc : c ∈ text.toList)
      (hforeign : c ∉ Base58.alphabet) : Misnamed n longest text .notBase58
  | wrongSize (hshort : text.utf8ByteSize ≤ longest) {bytes : List UInt8}
      (hwrites : Base58.Writes text bytes) (hsize : bytes.length ≠ n) :
      Misnamed n longest text .wrongSize

variable {n longest : Nat} {text : String}

/-- Every text names a byte string of the wanted width or fails to for one of the reasons. -/
theorem exists_writes_or_misnamed (n longest : Nat) (text : String) :
    (∃ bytes : Bytes n, text.utf8ByteSize ≤ longest ∧ Base58.Writes text bytes.toList) ∨
      ∃ fault, Misnamed n longest text fault := by
  rcases Nat.lt_or_ge longest text.utf8ByteSize with hlong | hshort
  · exact .inr ⟨_, .tooLong hlong⟩
  · cases hdecode : Base58.decode? text with
    | none =>
        obtain ⟨c, hc, hforeign⟩ := Base58.decode?_eq_none_iff.mp hdecode
        exact .inr ⟨_, .notBase58 hshort hc hforeign⟩
    | some bytes =>
        have hwrites := Base58.decode?_eq_some_iff.mp hdecode
        by_cases hsize : bytes.length = n
        · exact .inl ⟨⟨bytes, hsize⟩, hshort, hwrites⟩
        · exact .inr ⟨_, .wrongSize hshort hwrites hsize⟩

theorem ofText_of_writes (hshort : text.utf8ByteSize ≤ longest) {bytes : Bytes n}
    (hwrites : Base58.Writes text bytes.toList) : ofText n longest text = .ok bytes := by
  have hdecode := Base58.decode?_eq_some_iff.mpr hwrites
  simp only [ofText, if_neg (Nat.not_lt.mpr hshort), hdecode, ofList?_toList]

theorem Misnamed.ofText_eq {fault : TextFault} (hmisnamed : Misnamed n longest text fault) :
    ofText n longest text = .error fault := by
  cases hmisnamed with
  | tooLong hlong => rw [ofText, if_pos hlong]
  | notBase58 hshort hc hforeign =>
      have hdecode := Base58.decode?_eq_none_iff.mpr ⟨_, hc, hforeign⟩
      simp only [ofText, if_neg (Nat.not_lt.mpr hshort), hdecode]
  | wrongSize hshort hwrites hsize =>
      have hdecode := Base58.decode?_eq_some_iff.mpr hwrites
      simp only [ofText, if_neg (Nat.not_lt.mpr hshort), hdecode, ofList?, dif_neg hsize]

theorem ofText_eq_ok_iff {bytes : Bytes n} :
    ofText n longest text = .ok bytes ↔
      text.utf8ByteSize ≤ longest ∧ Base58.Writes text bytes.toList := by
  constructor
  · intro htext
    rcases exists_writes_or_misnamed n longest text with ⟨found, hnames⟩ | ⟨fault, hmisnamed⟩
    · rw [ofText_of_writes hnames.1 hnames.2, Except.ok.injEq] at htext
      rwa [← htext]
    · rw [hmisnamed.ofText_eq] at htext
      cases htext
  · intro hnames
    exact ofText_of_writes hnames.1 hnames.2

theorem ofText_eq_error_iff {fault : TextFault} :
    ofText n longest text = .error fault ↔ Misnamed n longest text fault := by
  constructor
  · intro htext
    rcases exists_writes_or_misnamed n longest text with ⟨bytes, hnames⟩ | ⟨found, hmisnamed⟩
    · rw [ofText_of_writes hnames.1 hnames.2] at htext
      cases htext
    · rw [hmisnamed.ofText_eq, Except.error.injEq] at htext
      rwa [← htext]
  · intro hmisnamed
    exact hmisnamed.ofText_eq

end Bytes

theorem writes_text (key : Key) : Base58.Writes key.text key.toList :=
  Base58.encode_eq_iff.mp rfl

/-- No key is kept out by the limit on the length of its text. -/
theorem keyOfText_eq_ok_iff {text : String} {key : Key} :
    keyOfText text = .ok key ↔ text.length ≤ 44 ∧ Base58.Writes text key.toList := by
  rw [keyOfText, Bytes.ofText_eq_ok_iff]
  refine and_congr_left fun hwrites => ?_
  rw [hwrites.utf8ByteSize_eq]

theorem keyOfText_text (key : Key) : keyOfText key.text = .ok key := by
  refine keyOfText_eq_ok_iff.mpr ⟨(writes_text key).length_le ?_, writes_text key⟩
  rw [key.length_toList]
  norm_num

end IssuanceClient
