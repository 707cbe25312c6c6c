import IssuanceClient.Proofs.Base58Codec
import IssuanceClient.Proofs.SnapshotLayout
import IssuanceClient.Snapshot.Text
import Mathlib

/-!
The JSON text of a snapshot.  A field's name ends at its closing quote and nothing in a field is a
comma, so the text of an object can be read back field by field.  Every number, key and flag has a
text of its own.  Snapshots with the same text are therefore the same, and accounts whose snapshots
have the same text agree in all bytes that count.
-/

namespace IssuanceClient

theorem Bytes.text_inj {n : Nat} {bytes other : Bytes n} :
    bytes.text = other.text ↔ bytes = other := by
  constructor
  · intro htext
    exact Bytes.ext (Base58.encode_injective htext)
  · rintro rfl
    rfl

namespace Snapshot

section Commas

theorem comma_notMem_nat (n : Nat) : ',' ∉ (toString n).toList := by
  rw [Nat.toString_eq_repr, Nat.toList_repr]
  intro hcomma
  exact absurd (Nat.isDigit_of_mem_toDigits (by decide) (by decide) hcomma) (by decide)

theorem comma_notMem_int (n : Int) : ',' ∉ (toString n).toList := by
  rw [Int.toString_eq_repr, Int.repr_eq_if]
  split
  · exact comma_notMem_nat n.toNat
  · rw [String.toList_append, List.mem_append]
    rintro (hsign | hdigits)
    · exact absurd hsign (by decide)
    · exact comma_notMem_nat (-n).toNat hdigits

theorem comma_notMem_quoted (key : Key) : ',' ∉ ("\"" ++ key.text ++ "\"").toList := by
  have hkey : ',' ∉ key.text.toList := fun hcomma =>
    absurd ((writes_text key).mem_alphabet ',' hcomma) (by decide)
  simp [hkey]

theorem comma_notMem_flag (flag : Bool) : ',' ∉ (if flag then "true" else "false").toList := by
  cases flag <;> decide

end Commas

/-- A field as it stands between two commas: its name in quotes, a colon and its text. -/
def member (entry : String × String) : String := "\"" ++ entry.1 ++ "\":" ++ entry.2

/-- The name and the text of a field: behind the opening quote, the name goes on up to the next
quote, and the text begins behind the colon. -/
def readMember (chars : List Char) : String × String :=
  let name := chars.tail.takeWhile (· != '"')
  (String.ofList name, String.ofList (chars.tail.drop (name.length + 2)))

/-- The fields of an object: what stands inside the braces, cut at the commas. -/
def readObject (text : String) : List (String × String) :=
  (text.toList.tail.dropLast.splitOn ',').map readMember

/-- A field that can be told from its neighbours, and its name from its text. -/
structure Separable (entry : String × String) : Prop where
  quote_notMem_name : '"' ∉ entry.1.toList
  comma_notMem_name : ',' ∉ entry.1.toList
  comma_notMem_text : ',' ∉ entry.2.toList

variable {entry : String × String} {entries : List (String × String)}

theorem toList_member (entry : String × String) :
    (member entry).toList = '"' :: (entry.1.toList ++ '"' :: ':' :: entry.2.toList) := by
  simp [member]

theorem Separable.comma_notMem_member (hentry : Separable entry) : ',' ∉ (member entry).toList := by
  simp [toList_member, hentry.comma_notMem_name, hentry.comma_notMem_text]

theorem Separable.readMember_member (hentry : Separable entry) :
    readMember (member entry).toList = entry := by
  have hname : (entry.1.toList ++ '"' :: ':' :: entry.2.toList).takeWhile (· != '"') =
      entry.1.toList := by
    have hquote : ∀ c ∈ entry.1.toList, (c != '"') = true := by
      intro c hc
      rw [bne_iff_ne]
      rintro rfl
      exact hentry.quote_notMem_name hc
    rw [List.takeWhile_append_of_pos hquote]
    simp
  simp [readMember, toList_member, hname]

theorem toList_objectText (entries : List (String × String)) :
    (objectText entries).toList =
      '{' :: ([','].intercalate (entries.map fun entry => (member entry).toList) ++ ['}']) := by
  simp [objectText, member, String.toList_intercalate, Function.comp_def]

/-- An object's text has one reading. -/
theorem readObject_objectText (hne : entries ≠ []) (hentries : ∀ entry ∈ entries, Separable entry) :
    readObject (objectText entries) = entries := by
  have hcommas : ∀ part ∈ entries.map fun entry => (member entry).toList, ',' ∉ part := by
    intro part hpart
    obtain ⟨entry, hentry, rfl⟩ := List.mem_map.mp hpart
    exact (hentries entry hentry).comma_notMem_member
  rw [readObject, toList_objectText, List.tail_cons, List.dropLast_concat,
    List.splitOn_intercalate ',' hcommas (by simpa using hne), List.map_map]
  refine (List.map_congr_left fun entry hentry => ?_).trans (List.map_id entries)
  exact (hentries entry hentry).readMember_member

theorem separable_entries (snapshot : Snapshot) : ∀ entry ∈ snapshot.entries, Separable entry := by
  have hnames : ∀ entry ∈ snapshot.entries, '"' ∉ entry.1.toList ∧ ',' ∉ entry.1.toList := by
    simp [Snapshot.entries]
  have htexts : ∀ entry ∈ snapshot.entries, ',' ∉ entry.2.toList := by
    simp only [Snapshot.entries, List.forall_mem_cons]
    exact ⟨comma_notMem_nat _, comma_notMem_nat _, comma_notMem_quoted _, comma_notMem_quoted _,
      comma_notMem_quoted _, comma_notMem_quoted _, comma_notMem_quoted _, comma_notMem_quoted _,
      comma_notMem_nat _, comma_notMem_int _, comma_notMem_int _, comma_notMem_int _,
      comma_notMem_nat _, comma_notMem_nat _, comma_notMem_nat _, comma_notMem_nat _,
      comma_notMem_flag _, by simp⟩
  intro entry hentry
  exact ⟨(hnames entry hentry).1, (hnames entry hentry).2, htexts entry hentry⟩

theorem readObject_json (snapshot : Snapshot) : readObject snapshot.json = snapshot.entries :=
  readObject_objectText (List.cons_ne_nil _ _) snapshot.separable_entries

theorem flag_inj {flag other : Bool} :
    (if flag then "true" else "false") = (if other then "true" else "false") ↔ flag = other := by
  cases flag <;> cases other <;> decide

/-- Each field's text stands for one value. -/
theorem entries_inj {snapshot found : Snapshot} :
    snapshot.entries = found.entries ↔ snapshot = found := by
  constructor
  · intro hentries
    simp only [Snapshot.entries, List.cons.injEq, Prod.mk.injEq, true_and, and_true,
      String.append_right_inj, String.append_left_inj, Bytes.text_inj, flag_inj,
      Nat.toString_eq_repr, Nat.repr_inj, Int.toString_eq_repr, Int.repr_inj, UInt8.toNat_inj,
      UInt64.toNat_inj, Int64.toInt_inj, BitVec.toNat_inj] at hentries
    cases snapshot
    cases found
    rwa [Snapshot.mk.injEq]
  · rintro rfl
    rfl

theorem json_inj {snapshot found : Snapshot} : snapshot.json = found.json ↔ snapshot = found := by
  rw [← entries_inj]
  constructor
  · intro hjson
    rw [← readObject_json, hjson, readObject_json]
  · intro hentries
    rw [json, json, hentries]

/-- The text of a snapshot tells it from every other one, and so it tells the accounts that hold
snapshots apart, as far as their bytes count. -/
theorem json_faithful :
    (∀ snapshot found : Snapshot, snapshot.json = found.json ↔ snapshot = found) ∧
    ∀ data other snapshot found, unpack data = .ok snapshot → unpack other = .ok found →
      (snapshot.json = found.json ↔
        data.take 282 = other.take 282 ∧ (data[282]? = some 0 ↔ other[282]? = some 0)) := by
  refine ⟨fun snapshot found => json_inj, fun data other snapshot found hunpack hother => ?_⟩
  obtain ⟨-, flag, hstands, hfunded⟩ := unpack_eq_ok_iff.mp hunpack
  obtain ⟨-, last, hfound, hlast⟩ := unpack_eq_ok_iff.mp hother
  rw [json_inj]
  exact eq_iff_of_standsIn hstands hfunded hfound hlast

/-- A snapshot that has two fields of one kind the other way round. -/
def swappedSnapshot : Snapshot :=
  { fundedSnapshot with start := fundedSnapshot.maturity, maturity := fundedSnapshot.start }

/-- Accounts that differ only in what the flag byte is besides zero, and behind it, have one text;
two fields that trade places make another one. -/
theorem json_faithful_swapped :
    unpack (fundedSnapshot.pack 1 ++ []) = .ok fundedSnapshot ∧
      unpack (fundedSnapshot.pack 255 ++ [7]) = .ok fundedSnapshot ∧
      (fundedSnapshot.pack 1 ++ []).take 282 = (fundedSnapshot.pack 255 ++ [7]).take 282 ∧
      unpack (swappedSnapshot.pack 1 ++ []) = .ok swappedSnapshot ∧
      fundedSnapshot.json ≠ swappedSnapshot.json ∧
      (fundedSnapshot.pack 1 ++ []).take 282 ≠ (swappedSnapshot.pack 1 ++ []).take 282 := by
  have hone : unpack (fundedSnapshot.pack 1 ++ []) = .ok fundedSnapshot :=
    unpack_eq_ok_iff.mpr ⟨rfl, 1, standsIn_iff.mpr ⟨[], rfl⟩, rfl⟩
  have hfull : unpack (fundedSnapshot.pack 255 ++ [7]) = .ok fundedSnapshot :=
    unpack_eq_ok_iff.mpr ⟨rfl, 255, standsIn_iff.mpr ⟨[7], rfl⟩, rfl⟩
  have hswapped : unpack (swappedSnapshot.pack 1 ++ []) = .ok swappedSnapshot :=
    unpack_eq_ok_iff.mpr ⟨rfl, 1, standsIn_iff.mpr ⟨[], rfl⟩, rfl⟩
  obtain ⟨hsnapshots, haccounts⟩ := json_faithful
  have hjson : fundedSnapshot.json ≠ swappedSnapshot.json := fun hsame =>
    absurd ((hsnapshots _ _).mp hsame) (by decide)
  refine ⟨hone, hfull, ((haccounts _ _ _ _ hone hfull).mp rfl).1, hswapped, hjson, fun hsame => ?_⟩
  refine hjson ((haccounts _ _ _ _ hone hswapped).mpr ⟨hsame, ?_⟩)
  decide

end Snapshot

end IssuanceClient
