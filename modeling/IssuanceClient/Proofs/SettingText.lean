import IssuanceClient.Text.Blank
import IssuanceClient.Text.Decimal
import Mathlib.Data.List.DropRight

/-!
The text of a setting.  Of the white space around it nothing remains, however much there is, and
nothing else is lost.  A number is the value of its digits; a text that is none, or is too large,
fails at the first character that cannot be taken.
-/

namespace IssuanceClient.Text

/-- Nothing but white space. -/
def Blank (chars : List Char) : Prop := ∀ c ∈ chars, isBlank c

/-- No white space at either end. -/
def Tight (text : String) : Prop :=
  ∀ c, text.toList.head? = some c ∨ text.toList.getLast? = some c → isBlank c = false

/-- One text with white space around it is another. -/
def Padded (core text : String) : Prop :=
  ∃ left right, Blank left ∧ Blank right ∧ text.toList = left ++ core.toList ++ right

section Trimming

variable {left right chars : List Char}

theorem trimChars_append_left (hleft : Blank left) :
    trimChars (left ++ chars) = trimChars chars := by
  rw [trimChars, trimChars, List.dropWhile_append_of_pos hleft]

theorem trimChars_append_right (hright : Blank right) :
    trimChars (chars ++ right) = trimChars chars := by
  have hdrop : right.dropWhile isBlank = [] := List.dropWhile_eq_nil_iff.mpr hright
  have hreverse : ∀ c ∈ right.reverse, isBlank c := fun c hc => hright c (List.mem_reverse.mp hc)
  rw [trimChars, trimChars, List.dropWhile_append]
  split
  · rename_i hempty
    rw [hdrop, List.isEmpty_iff.mp hempty]
  · rw [List.reverse_append, List.dropWhile_append_of_pos hreverse]

theorem trimmed_eq_of_padded {core text : String} (hpadded : Padded core text) :
    trimmed text = trimmed core := by
  obtain ⟨left, right, hleft, hright, htext⟩ := hpadded
  rw [trimmed, trimmed, htext, trimChars_append_right hright, trimChars_append_left hleft]

theorem dropWhile_eq_self_of_head? {p : Char → Bool}
    (hhead : ∀ c, chars.head? = some c → p c = false) : chars.dropWhile p = chars := by
  cases chars with
  | nil => rfl
  | cons c chars => rw [List.dropWhile_cons_of_neg (by simp [hhead c rfl])]

theorem trimmed_of_tight {core : String} (htight : Tight core) : trimmed core = core := by
  have hleft : core.toList.dropWhile isBlank = core.toList := by
    apply dropWhile_eq_self_of_head?
    intro c hc
    exact htight c (.inl hc)
  have hright : core.toList.reverse.dropWhile isBlank = core.toList.reverse := by
    apply dropWhile_eq_self_of_head?
    intro c hc
    exact htight c (.inr (by rwa [List.head?_reverse] at hc))
  rw [trimmed, trimChars, hleft, hright, List.reverse_reverse, String.ofList_toList]

theorem toList_trimmed (text : String) :
    (trimmed text).toList = (text.toList.dropWhile isBlank).rdropWhile isBlank :=
  String.toList_ofList

theorem padded_trimmed (text : String) : Padded (trimmed text) text := by
  refine ⟨text.toList.takeWhile isBlank, (text.toList.dropWhile isBlank).rtakeWhile isBlank,
    fun c hc => List.mem_takeWhile_imp hc, fun c hc => List.mem_rtakeWhile_imp hc, ?_⟩
  rw [toList_trimmed, List.append_assoc, List.rdropWhile_append_rtakeWhile,
    List.takeWhile_append_dropWhile]

theorem tight_trimmed (text : String) : Tight (trimmed text) := by
  intro c hc
  rw [toList_trimmed] at hc
  rcases hc with hhead | hlast
  · obtain ⟨right, hright⟩ := List.rdropWhile_prefix isBlank (text.toList.dropWhile isBlank)
    have hfirst : (text.toList.dropWhile isBlank).head? = some c := by
      rw [← hright, List.head?_append, hhead, Option.some_or]
    have hnot := List.head?_dropWhile_not isBlank text.toList
    rwa [hfirst] at hnot
  · have hne : (text.toList.dropWhile isBlank).rdropWhile isBlank ≠ [] := by
      intro hnil
      rw [hnil] at hlast
      cases hlast
    have hnot := List.rdropWhile_last_not isBlank _ hne
    rw [List.getLast?_eq_some_getLast hne, Option.some.injEq] at hlast
    rwa [hlast, Bool.not_eq_true] at hnot

/-- Trimming leaves the text that has no white space at its ends and makes the whole with some. -/
theorem trimmed_eq_iff {core text : String} :
    trimmed text = core ↔ Padded core text ∧ Tight core := by
  constructor
  · intro htrimmed
    rw [← htrimmed]
    exact ⟨padded_trimmed text, tight_trimmed text⟩
  · intro hcore
    obtain ⟨hpadded, htight⟩ := hcore
    rw [trimmed_eq_of_padded hpadded, trimmed_of_tight htight]

theorem trimmed_eq_empty_iff {text : String} : trimmed text = "" ↔ Blank text.toList := by
  rw [trimmed_eq_iff]
  constructor
  · intro hempty
    obtain ⟨⟨left, right, hleft, hright, htext⟩, -⟩ := hempty
    rw [htext]
    simp only [Blank, String.toList_empty, List.append_nil, List.forall_mem_append]
    exact ⟨hleft, hright⟩
  · intro hblank
    exact ⟨⟨text.toList, [], hblank, by simp [Blank], by simp⟩, by simp [Tight]⟩

end Trimming

/-- A number as it may be written: digits, at least one of them, behind a plus sign or behind
nothing. -/
def Denotes (text : String) (n : Nat) : Prop :=
  ∃ digits : List Char, digits ≠ [] ∧ (∀ c ∈ digits, c.isDigit) ∧
    (text.toList = digits ∨ text.toList = '+' :: digits) ∧ Nat.ofDigitChars 10 digits 0 = n

/-- The characters of a text behind its plus sign, or all of them if it has none. -/
def unsigned (text : String) : List Char :=
  match text.toList with
  | '+' :: rest => rest
  | chars => chars

/-- Why a text gives no number within a limit: it has no character to read, or a front within the
limit is followed by a character that is no digit, or by a digit that leads past the limit. -/
inductive Unreadable (limit : Nat) (text : String) : NumberFault → Prop
  | noDigits (hempty : unsigned text = []) : Unreadable limit text .invalidDigit
  | invalidDigit {front rest : List Char} {c : Char} (htext : unsigned text = front ++ c :: rest)
      (hfront : ∀ c ∈ front, c.isDigit) (hwithin : Nat.ofDigitChars 10 front 0 ≤ limit)
      (hc : c.isDigit = false) : Unreadable limit text .invalidDigit
  | tooLarge {front rest : List Char} {c : Char} (htext : unsigned text = front ++ c :: rest)
      (hfront : ∀ c ∈ front, c.isDigit) (hwithin : Nat.ofDigitChars 10 front 0 ≤ limit)
      (hc : c.isDigit) (hpast : limit < Nat.ofDigitChars 10 (front ++ [c]) 0) :
      Unreadable limit text .tooLarge

section Numbers

variable {limit value : Nat} {front rest chars : List Char} {text : String} {n : Nat}

theorem unsigned_eq {digits : List Char} (hdigits : ∀ c ∈ digits, c.isDigit)
    (htext : text.toList = digits ∨ text.toList = '+' :: digits) : unsigned text = digits := by
  rcases htext with hbare | hsigned
  · unfold unsigned
    split
    · rename_i rest hplus
      rw [← hbare, hplus] at hdigits
      have hplus : ('+').isDigit := hdigits '+' List.mem_cons_self
      exact absurd hplus (by decide)
    · exact hbare
  · simp only [unsigned, hsigned]

theorem toList_eq_unsigned_or (text : String) :
    text.toList = unsigned text ∨ text.toList = '+' :: unsigned text := by
  unfold unsigned
  split
  · rename_i rest hplus
    exact .inr hplus
  · exact .inl rfl

theorem denotes_iff :
    Denotes text n ↔ unsigned text ≠ [] ∧ (∀ c ∈ unsigned text, c.isDigit) ∧
      Nat.ofDigitChars 10 (unsigned text) 0 = n := by
  constructor
  · intro hdenotes
    obtain ⟨digits, hne, hdigits, htext, hvalue⟩ := hdenotes
    rw [unsigned_eq hdigits htext]
    exact ⟨hne, hdigits, hvalue⟩
  · intro hunsigned
    obtain ⟨hne, hdigits, hvalue⟩ := hunsigned
    exact ⟨unsigned text, hne, hdigits, toList_eq_unsigned_or text, hvalue⟩

theorem Denotes.unique {m : Nat} (hn : Denotes text n) (hm : Denotes text m) : n = m := by
  rw [← (denotes_iff.mp hn).2.2, (denotes_iff.mp hm).2.2]

theorem digitValue?_of_isDigit {c : Char} (hc : c.isDigit) :
    digitValue? c = some (c.toNat - '0'.toNat) := by
  rw [Char.isDigit_iff_toNat] at hc
  rw [digitValue?, if_pos]
  exact hc

theorem digitValue?_of_not_isDigit {c : Char} (hc : c.isDigit = false) :
    digitValue? c = none := by
  rw [digitValue?, if_neg]
  intro hrange
  rw [Bool.eq_false_iff, ne_eq, Char.isDigit_iff_toNat] at hc
  exact hc hrange

theorem le_ofDigitChars (value : Nat) (chars : List Char) :
    value ≤ Nat.ofDigitChars 10 chars value := by
  rw [Nat.ofDigitChars_eq_ofDigitChars_zero]
  calc value ≤ 10 ^ chars.length * value := Nat.le_mul_of_pos_left value (Nat.pow_pos (by decide))
    _ ≤ 10 ^ chars.length * value + Nat.ofDigitChars 10 chars 0 := Nat.le_add_right _ _

theorem readDigits_cons {c : Char} (hc : c.isDigit) :
    readDigits limit value (c :: rest) =
      if Nat.ofDigitChars 10 [c] value ≤ limit then
        readDigits limit (Nat.ofDigitChars 10 [c] value) rest
      else .error .tooLarge := by
  rw [readDigits, digitValue?_of_isDigit hc, Nat.ofDigitChars_cons, Nat.ofDigitChars_nil]

/-- Digits are read one by one as long as their number stays within the limit. -/
theorem readDigits_append (hfront : ∀ c ∈ front, c.isDigit)
    (hwithin : Nat.ofDigitChars 10 front value ≤ limit) :
    readDigits limit value (front ++ rest) =
      readDigits limit (Nat.ofDigitChars 10 front value) rest := by
  induction front generalizing value with
  | nil => rw [Nat.ofDigitChars_nil, List.nil_append]
  | cons c front ih =>
      rw [List.forall_mem_cons] at hfront
      rw [← List.singleton_append, Nat.ofDigitChars_append] at hwithin ⊢
      have hnext := (le_ofDigitChars (Nat.ofDigitChars 10 [c] value) front).trans hwithin
      rw [List.append_assoc, List.singleton_append, readDigits_cons hfront.1, if_pos hnext,
        ih hfront.2 hwithin]

theorem readUnsigned_eq (hne : unsigned text ≠ []) :
    readUnsigned limit text = readDigits limit 0 (unsigned text) := by
  change (if (unsigned text).isEmpty then _ else readDigits limit 0 (unsigned text)) = _
  rw [if_neg (by simpa using hne)]

theorem readUnsigned_of_denotes (hdenotes : Denotes text n) (hlimit : n ≤ limit) :
    readUnsigned limit text = .ok n := by
  obtain ⟨hne, hdigits, hvalue⟩ := denotes_iff.mp hdenotes
  rw [← hvalue] at hlimit
  rw [readUnsigned_eq hne, ← List.append_nil (unsigned text), readDigits_append hdigits hlimit,
    hvalue, readDigits]

theorem Unreadable.readUnsigned_eq {fault : NumberFault}
    (hunreadable : Unreadable limit text fault) : readUnsigned limit text = .error fault := by
  cases hunreadable with
  | noDigits hempty =>
      change (if (unsigned text).isEmpty then _ else _) = _
      rw [hempty, List.isEmpty_nil, if_pos rfl]
  | invalidDigit htext hfront hwithin hc =>
      rw [Text.readUnsigned_eq (by simp [htext]), htext, readDigits_append hfront hwithin,
        readDigits, digitValue?_of_not_isDigit hc]
  | tooLarge htext hfront hwithin hc hpast =>
      rw [Nat.ofDigitChars_append] at hpast
      rw [Text.readUnsigned_eq (by simp [htext]), htext, readDigits_append hfront hwithin,
        readDigits_cons hc, if_neg (Nat.not_le.mpr hpast)]

/-- Characters are digits of a number within the limit, or one of them is the first that cannot be
taken. -/
theorem forall_isDigit_or_exists_stop (limit : Nat) (chars : List Char) :
    ((∀ c ∈ chars, c.isDigit) ∧ Nat.ofDigitChars 10 chars 0 ≤ limit) ∨
      ∃ front c rest, chars = front ++ c :: rest ∧ (∀ c ∈ front, c.isDigit) ∧
        Nat.ofDigitChars 10 front 0 ≤ limit ∧
          (c.isDigit = false ∨ c.isDigit ∧ limit < Nat.ofDigitChars 10 (front ++ [c]) 0) := by
  -- The first character that cannot be taken stays the first when more follow.
  induction chars using List.reverseRecOn with
  | nil => exact .inl ⟨by simp, Nat.zero_le limit⟩
  | append_singleton chars c ih =>
      rcases ih with ⟨hdigits, hwithin⟩ | ⟨front, first, rest, rfl, hstop⟩
      · cases hc : c.isDigit with
        | false => exact .inr ⟨chars, c, [], rfl, hdigits, hwithin, .inl hc⟩
        | true =>
            rcases Nat.lt_or_ge limit (Nat.ofDigitChars 10 (chars ++ [c]) 0) with hpast | hnext
            · exact .inr ⟨chars, c, [], rfl, hdigits, hwithin, .inr ⟨hc, hpast⟩⟩
            · refine .inl ⟨?_, hnext⟩
              rw [List.forall_mem_append, List.forall_mem_singleton]
              exact ⟨hdigits, hc⟩
      · exact .inr ⟨front, first, rest ++ [c], by simp, hstop⟩

/-- A text is a number within the limit, or there is a reason why it is not. -/
theorem exists_denotes_or_unreadable (limit : Nat) (text : String) :
    (∃ n, Denotes text n ∧ n ≤ limit) ∨ ∃ fault, Unreadable limit text fault := by
  by_cases hempty : unsigned text = []
  · exact .inr ⟨_, .noDigits hempty⟩
  · rcases forall_isDigit_or_exists_stop limit (unsigned text) with ⟨hdigits, hwithin⟩ |
      ⟨front, c, rest, htext, hfront, hwithin, hforeign | ⟨hc, hpast⟩⟩
    · exact .inl ⟨_, denotes_iff.mpr ⟨hempty, hdigits, rfl⟩, hwithin⟩
    · exact .inr ⟨_, .invalidDigit htext hfront hwithin hforeign⟩
    · exact .inr ⟨_, .tooLarge htext hfront hwithin hc hpast⟩

theorem readUnsigned_eq_ok_iff :
    readUnsigned limit text = .ok n ↔ Denotes text n ∧ n ≤ limit := by
  constructor
  · intro hread
    rcases exists_denotes_or_unreadable limit text with
      ⟨found, hdenotes, hlimit⟩ | ⟨fault, hunreadable⟩
    · rw [readUnsigned_of_denotes hdenotes hlimit, Except.ok.injEq] at hread
      rw [← hread]
      exact ⟨hdenotes, hlimit⟩
    · rw [hunreadable.readUnsigned_eq] at hread
      cases hread
  · intro hdenotes
    exact readUnsigned_of_denotes hdenotes.1 hdenotes.2

theorem readUnsigned_eq_error_iff {fault : NumberFault} :
    readUnsigned limit text = .error fault ↔ Unreadable limit text fault := by
  constructor
  · intro hread
    rcases exists_denotes_or_unreadable limit text with
      ⟨found, hdenotes, hlimit⟩ | ⟨first, hunreadable⟩
    · rw [readUnsigned_of_denotes hdenotes hlimit] at hread
      cases hread
    · rw [hunreadable.readUnsigned_eq, Except.error.injEq] at hread
      rwa [← hread]
  · intro hunreadable
    exact hunreadable.readUnsigned_eq

theorem denotes_toString (n : Nat) : Denotes (toString n) n := by
  refine ⟨Nat.toDigits 10 n, Nat.toDigits_ne_nil, ?_, .inl ?_, Nat.ofDigitChars_ten_toDigits⟩
  · intro c hc
    exact Nat.isDigit_of_mem_toDigits (by decide) (by decide) hc
  · rw [Nat.toString_eq_ofList_toDigits, String.toList_ofList]

end Numbers

end IssuanceClient.Text
