import IssuanceClient.Proofs.Outcome
import IssuanceClient.Rpc.Result

/-!
The log lines in what a node replies about a transaction.  They stand in one field of one of the
reply's records, and only there; a reply that has no such field, or cannot be read, gives none.
-/

open Except (bind_eq_ok_iff)

namespace IssuanceClient

namespace Json

/-- The value of a field of a record that is given as an object, or as the list of its fields'
values.  A field that is missing counts as null. -/
def field (name : String) (position : Nat) : Json → Json
  | object members => (members.lookup name).getD null
  | array items => items[position]?.getD null
  | _ => null

/-- How log lines are held, if they are. -/
def ofLines : Option (List String) → Json
  | none => null
  | some lines => array (lines.map string)

section Records

variable {α : Type} {source : Source} {slots : Slots} {members found : Members} {items : List Json}

theorem eq_of_ofMembers (hmembers : ofMembers slots source members = .ok found) :
    found = members := by
  obtain ⟨-, -, hneeded⟩ := bind_eq_ok_iff.mp hmembers
  split at hneeded
  · cases hneeded
  · exact (Except.ok.inj hneeded).symm

/-- The items of a list go to the fields in the order in which the record declares them. -/
theorem eq_zip_of_assign {expected : String} {index : Nat}
    (hassign : assign expected source index slots items = .ok found) :
    found = (slots.map Slot.name).zip items := by
  induction slots generalizing index items found with
  | nil =>
      rw [assign] at hassign
      exact (Except.ok.inj hassign).symm
  | cons slot slots ih =>
      cases items with
      | nil =>
          rw [assign] at hassign
          split at hassign
          · rw [ih hassign, List.zip_nil_right, List.zip_nil_right]
          · cases hassign
      | cons json items =>
          rw [assign] at hassign
          obtain ⟨-, -, hrest⟩ := bind_eq_ok_iff.mp hassign
          obtain ⟨rest, hassign, hfound⟩ := bind_eq_ok_iff.mp hrest
          rw [List.map_cons, List.zip_cons_cons, ← ih hassign]
          exact (Except.ok.inj hfound).symm

theorem eq_zip_of_ofItems {what : String} (hitems : ofItems what slots source items = .ok found) :
    found = (slots.map Slot.name).zip items := by
  obtain ⟨members, hassign, hlength⟩ := bind_eq_ok_iff.mp hitems
  obtain ⟨-, -, hfound⟩ := bind_eq_ok_iff.mp hlength
  rw [← eq_zip_of_assign hassign]
  exact (Except.ok.inj hfound).symm

theorem lookup_zip {names : List String} {name : String} (hname : name ∈ names) :
    (names.zip items).lookup name = items[names.idxOf name]? := by
  induction names generalizing items with
  | nil => cases hname
  | cons first names ih =>
      cases items with
      | nil => rfl
      | cons item items =>
          by_cases hfirst : first = name
          · simp [hfirst]
          · have hrest : name ∈ names := (List.mem_cons.mp hname).resolve_left (Ne.symm hfirst)
            have hbeq : (name == first) = false := by simpa using Ne.symm hfirst
            have hbeq' : (first == name) = false := by simpa using hfirst
            rw [List.zip_cons_cons, List.lookup_cons, hbeq, ih hrest, List.idxOf_cons, hbeq',
              cond_false, List.getElem?_cons_succ]

/-- A record that makes its value of one of its fields makes it of what stands in that field. -/
theorem read_field_of_record (slot : Slot α) (hslot : slot.name ∈ slots.map Slot.name)
    {what : String} {json : Json} {value : α}
    (hread : Reader.record what slots slot.get source json = .ok value) :
    slot.read source (json.field slot.name ((slots.map Slot.name).idxOf slot.name)) =
      .ok value := by
  cases json with
  | object members =>
      obtain ⟨found, hmembers, hvalue⟩ := bind_eq_ok_iff.mp hread
      rw [eq_of_ofMembers hmembers] at hvalue
      exact hvalue
  | array items =>
      obtain ⟨found, hitems, hvalue⟩ := bind_eq_ok_iff.mp hread
      rw [Slot.get, eq_zip_of_ofItems hitems, lookup_zip hslot] at hvalue
      exact hvalue
  | _ => cases hread

end Records

theorem ofLines_inj {found found' : Option (List String)} :
    ofLines found = ofLines found' ↔ found = found' := by
  have hstring : Function.Injective string := fun _ _ => string.inj
  cases found <;> cases found' <;> simp [ofLines, List.map_inj_right hstring]

theorem text_eq_ok_iff {source : Source} {json : Json} {line : String} :
    Reader.text source json = .ok line ↔ json = string line := by
  cases json <;> simp [Reader.text, mistyped]

theorem mapM_text_eq_ok_iff {source : Source} {items : List Json} {lines : List String} :
    items.mapM (Reader.text source) = .ok lines ↔ items = lines.map string := by
  induction items generalizing lines with
  | nil => cases lines <;> simp [pure, Except.pure]
  | cons item items ih =>
      simp only [List.mapM_cons, bind_eq_ok_iff, text_eq_ok_iff, ih]
      constructor
      · rintro ⟨line, rfl, rest, rfl, hlines⟩
        obtain rfl := Except.ok.inj hlines
        rfl
      · intro hitems
        obtain ⟨line, rest, rfl, hline, hrest⟩ := List.map_eq_cons_iff.mp hitems.symm
        exact ⟨line, hline.symm, rest, hrest.symm, rfl⟩

theorem nullable_eq_ok_iff {α : Type} {reader : Reader α} {source : Source} {json : Json}
    {found : Option α} :
    reader.nullable source json = .ok found ↔
      (json = null ∧ none = found) ∨
        (json ≠ null ∧ ∃ value, reader source json = .ok value ∧ some value = found) := by
  cases json with
  | null => simp [Reader.nullable]
  | _ => simp [Reader.nullable, Except.map_eq_ok_iff]

/-- Reading log lines is the inverse of holding them. -/
theorem read_lines_eq_ok_iff {source : Source} {json : Json} {found : Option (List String)} :
    Reader.text.list.nullable source json = .ok found ↔ json = ofLines found := by
  rw [nullable_eq_ok_iff]
  cases json with
  | array items => cases found <;> simp [ofLines, Reader.list, mapM_text_eq_ok_iff]
  | _ => cases found <;> simp [ofLines, Reader.list, mistyped]

end Json

namespace Rpc

open Json

namespace TransactionRecord

/-- What a record of the execution holds as its log lines. -/
theorem field_logMessages_of_execution {source : Source} {json : Json}
    {found : Option (List String)} (hread : execution source json = .ok found) :
    json.field "logMessages" 6 = ofLines found := by
  have hfield := read_field_of_record logMessages (by decide) hread
  exact read_lines_eq_ok_iff.mp hfield

theorem exists_members_of_logs {json : Json} {found : Option (List String)}
    (hread : logs .document json = .ok found) : ∃ members, json = .object members := by
  cases json with
  | object members => exact ⟨members, rfl⟩
  | _ => cases hread

/-- A reply that can be read has its log lines in one place, which a missing record leaves null. -/
theorem field_logMessages_of_logs {members : Members} {found : Option (List String)}
    (hread : logs .document (.object members) = .ok found) :
    ((members.lookup "meta").getD null).field "logMessages" 6 = ofLines found := by
  obtain ⟨-, -, hinner⟩ := bind_eq_ok_iff.mp hread
  obtain ⟨inner, hmembers, hget⟩ := bind_eq_ok_iff.mp hinner
  obtain ⟨kept, hkept, hfound⟩ := bind_eq_ok_iff.mp hget
  rw [eq_of_ofMembers hmembers] at hkept
  obtain rfl := Except.ok.inj hfound
  change execution.nullable .aside ((members.lookup "meta").getD null) = .ok kept at hkept
  rcases nullable_eq_ok_iff.mp hkept with ⟨hnull, rfl⟩ | ⟨-, value, hvalue, rfl⟩
  · rw [hnull]
    rfl
  · exact field_logMessages_of_execution hvalue

/-- Log lines that stand in that place are those that are read. -/
theorem eq_of_field_logMessages {members : Members} {record : Json}
    {found lines : Option (List String)} (hread : logs .document (.object members) = .ok found)
    (hrecord : (members.lookup "meta").getD null = record)
    (hlines : record.field "logMessages" 6 = ofLines lines) : found = lines := by
  have hfield := field_logMessages_of_logs hread
  rw [hrecord, hlines] at hfield
  exact (ofLines_inj.mp hfield).symm

end TransactionRecord

/-- The log lines that a response brings.  It brings none if the request failed or the reply cannot
be read, or if the reply has no record of the execution or that one no log messages. -/
inductive BringsLogs : Response → List String → Prop
  | failed (fault : Fault) : BringsLogs (.error fault) []
  | unreadable {json : Json} {mismatch : Mismatch}
      (hread : TransactionRecord.logs .document json = .error mismatch) : BringsLogs (.ok json) []
  | noRecord {members : Members} {found : Option (List String)}
      (hread : TransactionRecord.logs .document (.object members) = .ok found)
      (hrecord : (members.lookup "meta").getD null = null) : BringsLogs (.ok (.object members)) []
  | noMessages {members : Members} {found : Option (List String)} {record : Json}
      (hread : TransactionRecord.logs .document (.object members) = .ok found)
      (hrecord : members.lookup "meta" = some record)
      (hmessages : record.field "logMessages" 6 = null) : BringsLogs (.ok (.object members)) []
  | messages {members : Members} {found : Option (List String)} {record : Json}
      {lines : List String}
      (hread : TransactionRecord.logs .document (.object members) = .ok found)
      (hrecord : members.lookup "meta" = some record)
      (hmessages : record.field "logMessages" 6 = .array (lines.map .string)) :
      BringsLogs (.ok (.object members)) lines

/-- The lines that are kept of a response about log lines. -/
def keptLines (response : Response) : List String :=
  match readLogs response with
  | .ok found => found.getD []
  | .error _ => []

theorem keptLines_of_logs {json : Json} {found : Option (List String)}
    (hread : TransactionRecord.logs .document json = .ok found) :
    keptLines (.ok json) = found.getD [] := by
  have hlogs : readLogs (.ok json) = .ok found := by
    change (TransactionRecord.logs .document json).mapError _ = _
    rw [hread]
    rfl
  rw [keptLines, hlogs]

theorem keptLines_of_unreadable {json : Json} {mismatch : Mismatch}
    (hread : TransactionRecord.logs .document json = .error mismatch) :
    keptLines (.ok json) = [] := by
  have hlogs : readLogs (.ok json) = .error (.malformed mismatch) := by
    change (TransactionRecord.logs .document json).mapError _ = _
    rw [hread]
    rfl
  rw [keptLines, hlogs]

/-- Of a reply that can be read, those lines are kept that stand in its one place. -/
theorem keptLines_of_field {members : Members} {record : Json}
    {found lines : Option (List String)}
    (hread : TransactionRecord.logs .document (.object members) = .ok found)
    (hrecord : (members.lookup "meta").getD null = record)
    (hlines : record.field "logMessages" 6 = ofLines lines) :
    keptLines (.ok (.object members)) = lines.getD [] := by
  have hfound : found = lines := TransactionRecord.eq_of_field_logMessages hread hrecord hlines
  rw [keptLines_of_logs hread, hfound]

theorem bringsLogs_iff {response : Response} {lines : List String} :
    BringsLogs response lines ↔ lines = keptLines response := by
  constructor
  · intro hbrings
    cases hbrings with
    | failed fault => rfl
    | unreadable hread => rw [keptLines_of_unreadable hread]
    | noRecord hread hrecord =>
        have hlines : null.field "logMessages" 6 = ofLines none := rfl
        exact (keptLines_of_field hread hrecord hlines).symm
    | @noMessages members found record hread hrecord hmessages =>
        have hlines : record.field "logMessages" 6 = ofLines none := hmessages
        have hplace : (members.lookup "meta").getD null = record := by
          rw [hrecord, Option.getD_some]
        exact (keptLines_of_field hread hplace hlines).symm
    | @messages members found record _ hread hrecord hmessages =>
        have hlines : record.field "logMessages" 6 = ofLines (some lines) := hmessages
        have hplace : (members.lookup "meta").getD null = record := by
          rw [hrecord, Option.getD_some]
        exact (keptLines_of_field hread hplace hlines).symm
  · rintro rfl
    cases response with
    | error fault => exact .failed fault
    | ok json =>
        cases hread : TransactionRecord.logs .document json with
        | error mismatch =>
            rw [keptLines_of_unreadable hread]
            exact .unreadable hread
        | ok found =>
            rw [keptLines_of_logs hread]
            obtain ⟨members, rfl⟩ := TransactionRecord.exists_members_of_logs hread
            have hfield := TransactionRecord.field_logMessages_of_logs hread
            cases hrecord : members.lookup "meta" with
            | none =>
                have hmissing : (members.lookup "meta").getD null = null := by
                  rw [hrecord, Option.getD_none]
                have hfound : found = none :=
                  TransactionRecord.eq_of_field_logMessages hread hmissing rfl
                rw [hfound]
                exact .noRecord hread hmissing
            | some record =>
                rw [hrecord, Option.getD_some] at hfield
                cases found with
                | none => exact .noMessages hread hrecord hfield
                | some lines => exact .messages hread hrecord hfield

end Rpc

end IssuanceClient
