/-!
Byte strings of a fixed width.  A `Bytes n` carries the proof that it has `n` bytes, so a key, a
signature or a digest needs no length check once it has been read.
-/

namespace IssuanceClient

/-- Exactly `n` bytes. -/
structure Bytes (n : Nat) where
  toList : List UInt8
  length_toList : toList.length = n
deriving DecidableEq, Repr

namespace Bytes

@[ext] theorem ext {n : Nat} {a b : Bytes n} (h : a.toList = b.toList) : a = b := by
  cases a
  cases b
  cases h
  rfl

attribute [simp] length_toList

/-- A byte string of a fixed width can be told from what follows it. -/
theorem toList_append_inj {n : Nat} {a b : Bytes n} {rest left : List UInt8} :
    a.toList ++ rest = b.toList ++ left ↔ a = b ∧ rest = left := by
  constructor
  · intro h
    have hlength : a.toList.length = b.toList.length := by rw [length_toList, length_toList]
    obtain ⟨hbytes, hrest⟩ := List.append_inj h hlength
    exact ⟨ext hbytes, hrest⟩
  · rintro ⟨rfl, rfl⟩
    rfl

/-- The byte string of `n` zeros. -/
def zero (n : Nat) : Bytes n :=
  ⟨List.replicate n 0, List.length_replicate⟩

/-- A list of exactly `n` bytes, seen as a `Bytes n`. -/
def ofList? (n : Nat) (bytes : List UInt8) : Option (Bytes n) :=
  if h : bytes.length = n then some ⟨bytes, h⟩ else none

@[simp] theorem ofList?_toList {n : Nat} (bytes : Bytes n) :
    ofList? n bytes.toList = some bytes := by
  simp [ofList?]

theorem ofList?_eq_some_iff {n : Nat} {bytes : List UInt8} {fixed : Bytes n} :
    ofList? n bytes = some fixed ↔ bytes = fixed.toList := by
  constructor
  · intro h
    by_cases hlen : bytes.length = n
    · simp only [ofList?, hlen, ↓reduceDIte, Option.some.injEq] at h
      rw [← h]
    · simp [ofList?, hlen] at h
  · rintro rfl
    exact ofList?_toList fixed

/-- The `n` bytes of `data` from position `offset`, which must lie inside it. -/
def slice (n : Nat) (data : List UInt8) (offset : Nat) (h : offset + n ≤ data.length) : Bytes n :=
  ⟨(data.drop offset).take n, by simp only [List.length_take, List.length_drop]; omega⟩

end Bytes

end IssuanceClient
