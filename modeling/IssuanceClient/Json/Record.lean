import IssuanceClient.Json.Reader

/-!
Records: objects with named fields, or lists of the values of all fields in the order in which a
record declares them.  Fields that a record does not know are passed over.  The first fault in the
order of the values counts, and only then a field that is missing.
-/

namespace IssuanceClient.Json

/-- Whether a record needs a field. -/
inductive Presence
  | required
  /-- An object may leave the field out, a list may not. -/
  | nullable
  /-- An object may leave the field out, and a list may end before it. -/
  | optional
deriving DecidableEq, Repr

/-- The place that a record has for a field: the name under which the value stands, whether the
record needs it, and how it is read. -/
structure Slot (α : Type) where
  name : String
  presence : Presence
  read : Reader α

/-- The members of an object. -/
abbrev Members := List (String × Json)

namespace Slot

variable {α : Type}

/-- A field that must be there. -/
def required (name : String) (reader : Reader α) : Slot α := ⟨name, .required, reader⟩

/-- A field that may be null or missing. -/
def nullable (name : String) (reader : Reader α) : Slot (Option α) :=
  ⟨name, .nullable, reader.nullable⟩

/-- A field that may be null or missing, also at the end of a list. -/
def optional (name : String) (reader : Reader α) : Slot (Option α) :=
  ⟨name, .optional, reader.nullable⟩

/-- A field of which it only matters whether its value can be read. -/
def form (slot : Slot α) : Slot Unit := ⟨slot.name, slot.presence, slot.read.accept⟩

/-- The value of a field among the members of an object; one that is missing counts as null. -/
def get (slot : Slot α) (source : Source) (members : Members) : Except Mismatch α :=
  slot.read source ((members.lookup slot.name).getD null)

end Slot

/-- The fields of a record, without the values that they give. -/
abbrev Slots := List (Slot Unit)

/-- Accepts the members of an object that the record knows, in the order in which they are held. -/
def checkKnown (slots : Slots) (source : Source) : Members → Except Mismatch Unit
  | [] => .ok ()
  | (name, json) :: members =>
      match slots.find? (·.name = name) with
      | some slot => do
          slot.read source json
          checkKnown slots source members
      | none => checkKnown slots source members

/-- Whether a record lacks a field that it needs. -/
def lacks (members : Members) (slot : Slot Unit) : Bool :=
  slot.presence = .required && (members.lookup slot.name).isNone

/-- The members of a record that is given as an object. -/
def ofMembers (slots : Slots) (source : Source) (members : Members) :
    Except Mismatch Members := do
  checkKnown slots source members
  match slots.find? (lacks members) with
  | some slot => throw (.missingField slot.name)
  | none => return members

/-- The members of a record that is given as a list, from the field with the given index on. -/
def assign (expected : String) (source : Source) : (index : Nat) → Slots → List Json →
    Except Mismatch Members
  | _, [], _ => .ok []
  | index, slot :: slots, json :: items => do
      slot.read source json
      return (slot.name, json) :: (← assign expected source (index + 1) slots items)
  | index, slot :: slots, [] =>
      if slot.presence = .optional then assign expected source (index + 1) slots []
      else .error (.wrongLength index expected)

/-- The members of a record that is given as a list. -/
def ofItems (what : String) (slots : Slots) (source : Source) (items : List Json) :
    Except Mismatch Members := do
  let members ← assign (what ++ " with " ++ counted slots.length) source 0 slots items
  checkLength source slots.length items.length
  return members

namespace Reader

variable {α : Type}

/-- A record with the given fields, of whose members `read` makes a value. -/
def record (name : String) (slots : Slots) (read : Source → Members → Except Mismatch α) :
    Reader α
  | source, object members => do read source (← ofMembers slots source members)
  | source, array items => do read source (← ofItems ("struct " ++ name) slots source items)
  | _, json => mistyped json ("struct " ++ name)

/-- A record that is only accepted. -/
def form (name : String) (slots : Slots) : Reader Unit := record name slots fun _ _ => .ok ()

/-- A record among whose fields those of another one lie.  The members of the inner record are put
aside until the outer one is complete. -/
def merged (name : String) (outer inner : Slots) (read : Source → Members → Except Mismatch α) :
    Reader α
  | source, object members => do
      let _ ← ofMembers outer source members
      read .aside (← ofMembers inner .aside members)
  | _, json => mistyped json ("struct " ++ name)

end Reader

end IssuanceClient.Json
