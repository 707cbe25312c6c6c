import IssuanceClient.Proofs.KeyTable
import Mathlib.Data.List.Dedup
import Mathlib.Data.List.Perm.Subperm

/-!
Reading a message back.  The groups of a key table are apart from each other and stand in the order
that the header counts, so the place of a key tells its rights; and as long as the places fit into a
byte, every index leads to the key that it was made for.
-/

namespace IssuanceClient

namespace KeyTable

variable {table : KeyTable} {payer key : Key} {rights other : Rights}

theorem mem_group_iff :
    key ∈ table.group payer rights ↔ key ≠ payer ∧ (key, rights) ∈ table := by
  simp only [group, List.mem_map, List.mem_filter, Bool.and_eq_true, decide_eq_true_eq]
  constructor
  · rintro ⟨⟨found, given⟩, ⟨hmem, hpayer, rfl⟩, rfl⟩
    exact ⟨by simpa using hpayer, hmem⟩
  · rintro ⟨hpayer, hmem⟩
    exact ⟨(key, rights), ⟨hmem, by simpa using hpayer, rfl⟩, rfl⟩

theorem mem_of_getElem?_group {position : Nat} {given : Rights}
    (hkey : (table.group payer rights)[position]? = some key) (hgiven : given = rights) :
    (key, given) ∈ table := by
  rw [hgiven]
  exact (mem_group_iff.mp (List.mem_of_getElem? hkey)).2

theorem Sorted.nodup_group (hsorted : table.Sorted) (payer : Key) (rights : Rights) :
    (table.group payer rights).Nodup :=
  hsorted.nodup_keys.sublist (List.filter_sublist.map Prod.fst)

theorem Sorted.disjoint_group (hsorted : table.Sorted) (payer : Key) (hne : rights ≠ other) :
    (table.group payer rights).Disjoint (table.group payer other) := by
  intro key hkey hother
  exact hne (hsorted.rights_eq (mem_group_iff.mp hkey).2 (mem_group_iff.mp hother).2)

end KeyTable

namespace Message

/-- An index leads to a key, with which the header lets an instruction do what is asked. -/
structure Grants (message : Message) (index : UInt8) (key : Key) (asked : Rights) : Prop where
  key : message.keys[index.toNat]? = some key
  rights : asked.Within (message.rights index.toNat)

/-- The indexes of a compiled instruction lead back to an instruction. -/
structure Restores (message : Message) (compiled : CompiledInstruction)
    (instruction : Instruction) : Prop where
  program : message.keys[compiled.program.toNat]? = some instruction.program
  accounts : List.Forall₂ (fun index account => message.Grants index account.key account.rights)
    compiled.accounts instruction.accounts
  data : compiled.data = instruction.data

/-- A message leads back to its payer and to its instructions. -/
structure Resolves (message : Message) (payer : Key) (instructions : List Instruction) :
    Prop where
  payer : message.keys.head? = some payer
  distinct : message.keys.Nodup
  instructions : List.Forall₂ message.Restores message.instructions instructions

/-- The places that a header counts, if there are so many keys of each kind behind the payer:
signers come first, and among signers and others alike those that may be written. -/
theorem rights_of_sizes {message : Message} {a b c d : Nat}
    (hheader : message.header = ⟨1 + a + b, b, d⟩)
    (hlength : message.keys.length = 1 + a + b + c + d) (position : Nat) :
    message.rights position =
      { signer := position < 1 + a + b
        writable := position < 1 + a ∨ 1 + a + b ≤ position ∧ position < 1 + a + b + c } := by
  have hsigners : message.header.signers = 1 + a + b := by rw [hheader]
  by_cases hsigner : position < message.header.signers
  · rw [rights, if_pos hsigner, Rights.mk.injEq, hheader, decide_eq_decide]
    exact ⟨(decide_eq_true (hsigners ▸ hsigner)).symm, by dsimp only; omega⟩
  · rw [rights, if_neg hsigner, Rights.mk.injEq, hheader, hlength, decide_eq_decide]
    exact ⟨(decide_eq_false (hsigners ▸ hsigner)).symm, by dsimp only; omega⟩

section Compile

variable (instructions : List Instruction) (payer : Key) (blockhash : Blockhash)

theorem keys_compile :
    (compile instructions payer blockhash).keys =
      payer :: ((KeyTable.ofInstructions instructions).group payer ⟨true, true⟩ ++
        (KeyTable.ofInstructions instructions).group payer ⟨true, false⟩ ++
        (KeyTable.ofInstructions instructions).group payer ⟨false, true⟩ ++
        (KeyTable.ofInstructions instructions).group payer ⟨false, false⟩) :=
  rfl

theorem length_keys_compile :
    (compile instructions payer blockhash).keys.length =
      1 + ((KeyTable.ofInstructions instructions).group payer ⟨true, true⟩).length +
        ((KeyTable.ofInstructions instructions).group payer ⟨true, false⟩).length +
        ((KeyTable.ofInstructions instructions).group payer ⟨false, true⟩).length +
        ((KeyTable.ofInstructions instructions).group payer ⟨false, false⟩).length := by
  rw [keys_compile, List.length_cons, List.length_append, List.length_append, List.length_append]
  omega

theorem mem_keys_compile {key : Key} :
    key ∈ (compile instructions payer blockhash).keys ↔
      key = payer ∨ key ∈ (KeyTable.ofInstructions instructions).keys := by
  simp only [keys_compile, List.mem_cons, List.mem_append, KeyTable.mem_group_iff]
  constructor
  · rintro (rfl | ((⟨-, hmem⟩ | ⟨-, hmem⟩) | ⟨-, hmem⟩) | ⟨-, hmem⟩)
    · exact Or.inl rfl
    all_goals exact Or.inr (List.mem_map_of_mem hmem)
  · intro hkey
    by_cases hpayer : key = payer
    · exact Or.inl hpayer
    · obtain ⟨⟨found, given⟩, hmem, rfl⟩ := List.mem_map.mp (hkey.resolve_left hpayer)
      rcases given with ⟨_ | _, _ | _⟩ <;> simp [hpayer, hmem]

/-- No key is listed twice. -/
theorem nodup_keys_compile : (compile instructions payer blockhash).keys.Nodup := by
  have hsorted := KeyTable.sorted_ofInstructions instructions
  have hgroup := hsorted.nodup_group payer
  have hapart {rights other : Rights} (hne : rights ≠ other) :=
    hsorted.disjoint_group payer hne
  have hpayer (rights : Rights) :
      payer ∉ (KeyTable.ofInstructions instructions).group payer rights :=
    fun hmem => (KeyTable.mem_group_iff.mp hmem).1 rfl
  have hsigners := (hgroup ⟨true, true⟩).append (hgroup ⟨true, false⟩) (hapart (by decide))
  have hwritable := hsigners.append (hgroup ⟨false, true⟩)
    (List.disjoint_append_left.mpr ⟨hapart (by decide), hapart (by decide)⟩)
  have hothers := hwritable.append (hgroup ⟨false, false⟩) (List.disjoint_append_left.mpr
    ⟨List.disjoint_append_left.mpr ⟨hapart (by decide), hapart (by decide)⟩,
      hapart (by decide)⟩)
  rw [keys_compile, List.nodup_cons]
  refine ⟨?_, hothers⟩
  simp only [List.mem_append, hpayer, or_self, not_false_eq_true]

theorem rights_compile_zero : (compile instructions payer blockhash).rights 0 = ⟨true, true⟩ := by
  rw [rights_of_sizes rfl (length_keys_compile instructions payer blockhash), Rights.mk.injEq,
    decide_eq_true_eq, decide_eq_true_eq]
  omega

/-- Behind the payer, the place of a key tells the rights that the table gives it. -/
theorem mem_of_getElem?_compile {position : Nat} {key : Key}
    (hkey : (compile instructions payer blockhash).keys[position + 1]? = some key) :
    (key, (compile instructions payer blockhash).rights (position + 1)) ∈
      KeyTable.ofInstructions instructions := by
  rw [rights_of_sizes rfl (length_keys_compile instructions payer blockhash)]
  rw [keys_compile, List.getElem?_cons_succ, List.getElem?_append, List.getElem?_append,
    List.getElem?_append] at hkey
  simp only [List.length_append] at hkey
  split_ifs at hkey with hothers hsigners hwritable
  -- One case for each group, in which the place settles both comparisons.
  all_goals
    refine KeyTable.mem_of_getElem?_group hkey ?_
    simp only [Rights.mk.injEq, decide_eq_true_eq, decide_eq_false_iff_not]
    omega

end Compile

/-- An index in one byte is enough for so many keys. -/
theorem getElem?_keyIndex {keys : List Key} {key : Key} (hkey : key ∈ keys)
    (hlength : keys.length ≤ 256) : keys[(keyIndex keys key).toNat]? = some key := by
  have hlt : keys.idxOf key < keys.length := List.idxOf_lt_length_of_mem hkey
  have hindex : (keyIndex keys key).toNat = keys.idxOf key :=
    UInt8.toNat_ofNat_of_lt' (Nat.lt_of_lt_of_le hlt hlength)
  rw [hindex, List.getElem?_eq_getElem hlt, List.getElem_idxOf hlt]

/-- The keys that a transaction names, as often as it names them. -/
def named (payer : Key) (instructions : List Instruction) : List Key :=
  payer :: (instructions.flatMap Instruction.uses).map Prod.fst

section Resolution

variable {instructions : List Instruction} {payer : Key} (blockhash : Blockhash)

theorem mem_keys_compile_iff_named {key : Key} :
    key ∈ (compile instructions payer blockhash).keys ↔ key ∈ named payer instructions := by
  rw [mem_keys_compile, KeyTable.mem_keys_ofInstructions, named, List.mem_cons]

/-- Each named key is listed once. -/
theorem length_keys_compile_le :
    (compile instructions payer blockhash).keys.length ≤
      (named payer instructions).dedup.length := by
  refine ((nodup_keys_compile instructions payer blockhash).subperm ?_).length_le
  intro key hkey
  exact List.mem_dedup.mpr ((mem_keys_compile_iff_named blockhash).mp hkey)

/-- The index of a key that is used grants the use. -/
theorem grants_compile (hnamed : (named payer instructions).dedup.length ≤ 256) {key : Key}
    {asked : Rights} (huse : (key, asked) ∈ instructions.flatMap Instruction.uses) :
    (compile instructions payer blockhash).Grants
      (keyIndex (compile instructions payer blockhash).keys key) key asked := by
  have hkey : key ∈ (compile instructions payer blockhash).keys :=
    (mem_keys_compile_iff_named blockhash).mpr
      (List.mem_cons_of_mem payer (List.mem_map_of_mem huse))
  have hfound := getElem?_keyIndex hkey (Nat.le_trans (length_keys_compile_le blockhash) hnamed)
  refine ⟨hfound, ?_⟩
  generalize (keyIndex (compile instructions payer blockhash).keys key).toNat = position at hfound
  -- The payer may do anything; of other keys the place tells what the table gives them.
  cases position with
  | zero =>
      rw [rights_compile_zero]
      exact asked.within_all
  | succ position =>
      obtain ⟨given, hgiven, hwithin⟩ := KeyTable.allows_ofInstructions huse
      have hplaced := mem_of_getElem?_compile instructions payer blockhash hfound
      rwa [(KeyTable.sorted_ofInstructions instructions).rights_eq hplaced hgiven]

theorem restores_compile (hnamed : (named payer instructions).dedup.length ≤ 256)
    {instruction : Instruction} (hinstruction : instruction ∈ instructions) :
    (compile instructions payer blockhash).Restores
      (instruction.compile (compile instructions payer blockhash).keys) instruction := by
  have huses {use : Key × Rights} (huse : use ∈ instruction.uses) :
      use ∈ instructions.flatMap Instruction.uses :=
    List.mem_flatMap.mpr ⟨instruction, hinstruction, huse⟩
  refine ⟨?_, ?_, rfl⟩
  · exact (grants_compile blockhash hnamed (huses List.mem_cons_self)).key
  · refine List.forall₂_map_left_iff.mpr (List.forall₂_same.mpr fun account haccount => ?_)
    exact grants_compile blockhash hnamed
      (huses (List.mem_cons_of_mem _ (List.mem_map_of_mem haccount)))

/-- As long as a byte can index the keys, a compiled message resolves. -/
theorem resolves_compile (hnamed : (named payer instructions).dedup.length ≤ 256) :
    (compile instructions payer blockhash).Resolves payer instructions where
  payer := by rw [keys_compile, List.head?_cons]
  distinct := nodup_keys_compile instructions payer blockhash
  instructions := List.forall₂_map_left_iff.mpr <| List.forall₂_same.mpr fun _ hinstruction =>
    restores_compile blockhash hnamed hinstruction

end Resolution

end Message

end IssuanceClient
