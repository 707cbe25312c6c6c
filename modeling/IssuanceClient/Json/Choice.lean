import IssuanceClient.Json.Record

/-!
Choices between cases.  A case is written as its name where it has no content, and else as an object
with the name as its only field.  Choices without names are decided by the form of the value alone.
-/

namespace IssuanceClient.Json

/-- A case of a choice: its name, and how its content is read where there is one. -/
structure Case (α : Type) where
  name : String
  read : Source → Option Json → Except Mismatch α

namespace Case

variable {α β γ : Type}

/-- A case without content; null may stand for it. -/
def bare (name : String) (value : α) : Case α where
  name
  read
    | _, none => .ok value
    | source, some json => (fun _ => value) <$> Reader.nothing source json

/-- A case whose content is one value. -/
def carrying (name : String) (reader : Reader β) (make : β → α) : Case α where
  name
  read
    | source, some json => make <$> reader source json
    | _, none => .error (.wrongType .bareName "newtype variant")

/-- A case whose content is one value, which counts as null where it is missing. -/
def carryingAny (name : String) (reader : Reader β) (make : β → α) : Case α where
  name
  read source content := make <$> reader source (content.getD null)

/-- A case whose content is a list of two values.  In a document the empty list counts as no list at
all. -/
def carryingPair (owner name : String) (first : Reader β) (second : Reader γ) (make : β → γ → α) :
    Case α where
  name
  read
    | .document, some (array []) => .error (.wrongType .null (what owner name))
    | source, some (array items) => do
        let expected := what owner name ++ " with " ++ counted 2
        let (a, b) ← Reader.both expected first second source items
        return make a b
    | _, some json => mistyped json "tuple variant"
    | _, none => .error (.wrongType .bareName "tuple variant")
where
  what (owner name : String) : String := "tuple variant " ++ owner ++ "::" ++ name

/-- A case whose content is a record with one field.  Only what was put aside may be a list. -/
def carryingField (owner name : String) (slot : Slot β) (make : β → α) : Case α where
  name
  read
    | source, some (object members) => do
        make <$> slot.get source (← ofMembers [slot.form] source members)
    | .aside, some (array items) => do
        let what := "struct variant " ++ owner ++ "::" ++ name
        make <$> slot.get .aside (← ofItems what [slot.form] .aside items)
    | _, some json => mistyped json "struct variant"
    | _, none => .error (.wrongType .bareName "struct variant")

/-- A case whose result is put through a function. -/
def map (f : α → β) (self : Case α) : Case β :=
  ⟨self.name, fun source content => f <$> self.read source content⟩

end Case

namespace Reader

variable {α : Type}

/-- Reads the case with the given name. -/
def case (cases : List (Case α)) (source : Source) (name : String) (content : Option Json) :
    Except Mismatch α :=
  match cases.find? (·.name = name) with
  | some case => case.read source content
  | none => .error (.unknownCase name (cases.map Case.name))

/-- A choice between cases by name. -/
def choice (cases : List (Case α)) : Reader α
  | source, string name => case cases source name none
  | source, object [(name, content)] => case cases source name (some content)
  | _, object _ => .error (.wrongValue .map "map with a single key")
  | _, json => mistyped json "string or map"

/-- The first of several readers that accepts the value. -/
def alternatives (name : String) (readers : List (Reader α)) : Reader α := fun _ json =>
  match readers.findSome? fun reader => (reader .document json).toOption with
  | some value => .ok value
  | none => .error (.noAlternative name)

end Reader

end IssuanceClient.Json
