import IssuanceClient.Json.Token

/-!
Reading JSON texts.  The tokens are taken one by one; what has been read so far is a stack of lists
and objects whose ends are still to come.
-/

namespace IssuanceClient.Json

/-- The fields of an object with one more, in the order of their names.  A name that is there
already takes the new value. -/
def putField (name : String) (value : Json) : List (String × Json) → List (String × Json)
  | [] => [(name, value)]
  | (other, old) :: rest =>
      if name < other then (name, value) :: (other, old) :: rest
      else if name = other then (name, value) :: rest
      else (other, old) :: putField name value rest

/-- A list or an object whose end has not been read. -/
inductive Frame
  /-- The items that are complete, the last one first. -/
  | array (items : List Json)
  /-- The fields that are complete, and the name of the one that is not. -/
  | object (fields : List (String × Json)) (name : String)

/-- What the next token may be. -/
inductive Expectation
  | value
  /-- After an opening bracket: the first item, or the end of the list. -/
  | itemOrEnd
  /-- After an opening brace: the first name, or the end of the object. -/
  | nameOrEnd
  /-- After a comma in an object with the given fields. -/
  | name (fields : List (String × Json))
  | colon (fields : List (String × Json)) (name : String)
  /-- After a value: what its frame goes on with. -/
  | after (value : Json)

/-- A document of which the front has been read; the innermost frame comes first. -/
structure Document where
  expected : Expectation := .value
  frames : List Frame := []

namespace Document

/-- Takes a token where a value is expected. -/
def begin (frames : List Frame) : Token → Option Document
  | .mark '[' => some ⟨.itemOrEnd, .array [] :: frames⟩
  | .mark '\x7b' => some ⟨.nameOrEnd, frames⟩
  | .mark _ => none
  | .value value => some ⟨.after value, frames⟩

/-- Takes a token after a value. -/
def proceed (value : Json) : List Frame → Token → Option Document
  | .array items :: frames, .mark ',' => some ⟨.value, .array (value :: items) :: frames⟩
  | .array items :: frames, .mark ']' => some ⟨.after (.array (value :: items).reverse), frames⟩
  | .object fields name :: frames, .mark ',' => some ⟨.name (putField name value fields), frames⟩
  | .object fields name :: frames, .mark '\x7d' =>
      some ⟨.after (.object (putField name value fields)), frames⟩
  | _, _ => none

/-- Takes the next token. -/
def step (document : Document) (token : Token) : Option Document :=
  match document.expected, document.frames, token with
  | .value, frames, token => begin frames token
  | .itemOrEnd, .array [] :: frames, .mark ']' => some ⟨.after (.array []), frames⟩
  | .itemOrEnd, frames, token => begin frames token
  | .nameOrEnd, frames, .mark '\x7d' => some ⟨.after (.object []), frames⟩
  | .nameOrEnd, frames, .value (.string name) => some ⟨.colon [] name, frames⟩
  | .name fields, frames, .value (.string name) => some ⟨.colon fields name, frames⟩
  | .colon fields name, frames, .mark ':' => some ⟨.value, .object fields name :: frames⟩
  | .after value, frames, token => proceed value frames token
  | _, _, _ => none

/-- The value of a document that is complete. -/
def value? : Document → Option Json
  | ⟨.after value, []⟩ => some value
  | _ => none

end Document

/-- The value that a text writes. -/
def ofText? (text : String) : Option Json := do
  let document ← (← Token.list? text.toList).foldlM Document.step {}
  document.value?

end IssuanceClient.Json
