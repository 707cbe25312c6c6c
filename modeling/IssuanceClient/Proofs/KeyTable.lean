import IssuanceClient.Message
import Mathlib.Data.List.Nodup

/-!
Key tables.  Insertion keeps a table in order, so each key stands in it once, and it takes no right
away; so a table allows what any of the uses asks for that have gone into it.
-/

namespace IssuanceClient

namespace Rights

/-- What is asked for is among what is given. -/
structure Within (asked given : Rights) : Prop where
  signer : asked.signer = true → given.signer = true
  writable : asked.writable = true → given.writable = true

variable {a b c : Rights}

theorem Within.refl (a : Rights) : a.Within a := ⟨id, id⟩

theorem Within.trans (hab : a.Within b) (hbc : b.Within c) : a.Within c :=
  ⟨hbc.signer ∘ hab.signer, hbc.writable ∘ hab.writable⟩

theorem within_merge_left (a b : Rights) : a.Within (a.merge b) :=
  ⟨fun h => by simp [merge, h], fun h => by simp [merge, h]⟩

theorem within_merge_right (a b : Rights) : b.Within (a.merge b) :=
  ⟨fun h => by simp [merge, h], fun h => by simp [merge, h]⟩

theorem within_all (a : Rights) : a.Within ⟨true, true⟩ :=
  ⟨fun _ => rfl, fun _ => rfl⟩

end Rights

namespace KeyTable

def keys (table : KeyTable) : List Key := table.map Prod.fst

/-- Each key once, in the order of their bytes. -/
def Sorted (table : KeyTable) : Prop :=
  table.Pairwise fun entry later => entry.1.toList < later.1.toList

/-- The table gives a key at least some rights. -/
def Allows (table : KeyTable) (key : Key) (asked : Rights) : Prop :=
  ∃ given, (key, given) ∈ table ∧ asked.Within given

section Insert

variable {table : KeyTable} {key other : Key} {rights asked : Rights}

theorem mem_keys_insert :
    other ∈ (table.insert key rights).keys ↔ other = key ∨ other ∈ table.keys := by
  induction table with
  | nil => simp [insert, keys]
  | cons entry rest ih =>
      rw [insert]
      by_cases hkey : key = entry.1
      · simp [hkey, keys]
      · rw [if_neg hkey]
        by_cases hlt : key.toList < entry.1.toList
        · simp [hlt, keys]
        · rw [if_neg hlt]
          simp only [keys, List.map_cons, List.mem_cons] at ih ⊢
          rw [ih]
          exact or_left_comm

theorem toList_lt_of_not_lt (hne : key ≠ other) (hlt : ¬ key.toList < other.toList) :
    other.toList < key.toList := by
  have hle : other.toList ≤ key.toList := List.not_lt.mp hlt
  exact Std.lt_of_le_of_ne hle fun heq => hne (Bytes.ext heq.symm)

/-- An insertion keeps the order. -/
theorem Sorted.insert (hsorted : table.Sorted) : (table.insert key rights).Sorted := by
  induction table with
  | nil => exact List.pairwise_singleton _ _
  | cons entry rest ih =>
      obtain ⟨hentry, hrest⟩ := List.pairwise_cons.mp hsorted
      rw [KeyTable.insert]
      by_cases hkey : key = entry.1
      · subst hkey
        rw [if_pos rfl]
        exact List.pairwise_cons.mpr ⟨hentry, hrest⟩
      · rw [if_neg hkey]
        by_cases hlt : key.toList < entry.1.toList
        · rw [if_pos hlt]
          refine List.pairwise_cons.mpr ⟨fun later hlater => ?_, hsorted⟩
          rcases List.mem_cons.mp hlater with rfl | hlater
          · exact hlt
          · exact List.lt_trans hlt (hentry later hlater)
        · rw [if_neg hlt]
          refine List.pairwise_cons.mpr ⟨fun later hlater => ?_, ih hrest⟩
          -- What follows the entry now is the new key or followed it before.
          have hmem : later.1 ∈ (KeyTable.insert key rights rest).keys := List.mem_map_of_mem hlater
          rcases mem_keys_insert.mp hmem with hlater | hlater
          · rw [hlater]
            exact toList_lt_of_not_lt hkey hlt
          · obtain ⟨old, hold, hlater⟩ := List.mem_map.mp hlater
            rw [← hlater]
            exact hentry old hold

theorem allows_insert : (table.insert key rights).Allows key rights := by
  induction table with
  | nil => exact ⟨rights, List.mem_singleton_self _, .refl rights⟩
  | cons entry rest ih =>
      rw [insert]
      by_cases hkey : key = entry.1
      · rw [if_pos hkey]
        exact ⟨_, List.mem_cons_self, Rights.within_merge_right entry.2 rights⟩
      · rw [if_neg hkey]
        by_cases hlt : key.toList < entry.1.toList
        · rw [if_pos hlt]
          exact ⟨rights, List.mem_cons_self, .refl rights⟩
        · rw [if_neg hlt]
          obtain ⟨given, hgiven, hwithin⟩ := ih
          exact ⟨given, List.mem_cons_of_mem entry hgiven, hwithin⟩

/-- An insertion takes no right away. -/
theorem Allows.insert (hallows : table.Allows other asked) :
    (table.insert key rights).Allows other asked := by
  induction table with
  | nil =>
      obtain ⟨given, hgiven, -⟩ := hallows
      exact absurd hgiven List.not_mem_nil
  | cons entry rest ih =>
      obtain ⟨given, hgiven, hwithin⟩ := hallows
      rw [KeyTable.insert]
      by_cases hkey : key = entry.1
      · rw [if_pos hkey]
        rcases List.mem_cons.mp hgiven with rfl | hgiven
        · subst hkey
          exact ⟨_, List.mem_cons_self, hwithin.trans (Rights.within_merge_left given rights)⟩
        · exact ⟨given, List.mem_cons_of_mem _ hgiven, hwithin⟩
      · rw [if_neg hkey]
        by_cases hlt : key.toList < entry.1.toList
        · rw [if_pos hlt]
          exact ⟨given, List.mem_cons_of_mem _ hgiven, hwithin⟩
        · rw [if_neg hlt]
          rcases List.mem_cons.mp hgiven with rfl | hgiven
          · exact ⟨given, List.mem_cons_self, hwithin⟩
          · obtain ⟨merged, hmerged, hwithin⟩ := ih ⟨given, hgiven, hwithin⟩
            exact ⟨merged, List.mem_cons_of_mem entry hmerged, hwithin⟩

end Insert

section Uses

/-- The table after some more uses of keys. -/
def addUses (table : KeyTable) (uses : List (Key × Rights)) : KeyTable :=
  uses.foldl (fun table use => table.insert use.1 use.2) table

variable {table : KeyTable} {uses : List (Key × Rights)} {key : Key} {asked : Rights}

theorem addUses_cons (table : KeyTable) (use : Key × Rights) (uses : List (Key × Rights)) :
    table.addUses (use :: uses) = (table.insert use.1 use.2).addUses uses :=
  rfl

theorem Sorted.addUses (hsorted : table.Sorted) : (table.addUses uses).Sorted := by
  induction uses generalizing table with
  | nil => exact hsorted
  | cons use uses ih => exact ih hsorted.insert

theorem mem_keys_addUses :
    key ∈ (table.addUses uses).keys ↔ key ∈ uses.map Prod.fst ∨ key ∈ table.keys := by
  induction uses generalizing table with
  | nil => simp [addUses]
  | cons use uses ih =>
      rw [addUses_cons, ih, mem_keys_insert, List.map_cons, List.mem_cons, ← or_assoc]
      exact or_congr_left or_comm

theorem Allows.addUses (hallows : table.Allows key asked) :
    (table.addUses uses).Allows key asked := by
  induction uses generalizing table with
  | nil => exact hallows
  | cons use uses ih => exact ih hallows.insert

theorem allows_addUses (huse : (key, asked) ∈ uses) : (table.addUses uses).Allows key asked := by
  induction uses generalizing table with
  | nil => exact absurd huse List.not_mem_nil
  | cons use uses ih =>
      rcases List.mem_cons.mp huse with rfl | huse
      · exact allows_insert.addUses
      · exact ih huse

end Uses

theorem ofInstructions_eq (instructions : List Instruction) :
    ofInstructions instructions = addUses [] (instructions.flatMap Instruction.uses) :=
  rfl

theorem sorted_ofInstructions (instructions : List Instruction) :
    (ofInstructions instructions).Sorted :=
  Sorted.addUses List.Pairwise.nil

theorem mem_keys_ofInstructions {instructions : List Instruction} {key : Key} :
    key ∈ (ofInstructions instructions).keys ↔
      key ∈ (instructions.flatMap Instruction.uses).map Prod.fst := by
  rw [ofInstructions_eq, mem_keys_addUses]
  exact or_iff_left List.not_mem_nil

theorem allows_ofInstructions {instructions : List Instruction} {key : Key} {asked : Rights}
    (huse : (key, asked) ∈ instructions.flatMap Instruction.uses) :
    (ofInstructions instructions).Allows key asked :=
  allows_addUses huse

variable {table : KeyTable}

theorem Sorted.nodup_keys (hsorted : table.Sorted) : table.keys.Nodup := by
  refine List.pairwise_map.mpr (hsorted.imp fun hlt heq => ?_)
  rw [heq] at hlt
  exact List.lt_irrefl _ hlt

/-- A key has its rights in one place only. -/
theorem Sorted.rights_eq (hsorted : table.Sorted) {key : Key} {given other : Rights}
    (hgiven : (key, given) ∈ table) (hother : (key, other) ∈ table) : given = other :=
  congrArg Prod.snd (List.inj_on_of_nodup_map hsorted.nodup_keys hgiven hother rfl)

end KeyTable

end IssuanceClient
