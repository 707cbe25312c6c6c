import IssuanceClient.Json.Mismatch

/-!
Readers of JSON values.  A reader either gives the value that a JSON value stands for or says what
is wrong with it first.
-/

namespace IssuanceClient.Json

/-- Where a value is read from: the document itself, or a part of it that was put aside until it was
known what to read it as.  The two differ in what they make of empty and of overlong lists. -/
inductive Source
  | document
  | aside
deriving DecidableEq, Repr

/-- Reads a value of type `α` from a JSON value. -/
abbrev Reader (α : Type) := Source → Json → Except Mismatch α

/-- The mismatch of a value of the wrong type. -/
def mistyped {α : Type} (json : Json) (expected : String) : Except Mismatch α :=
  .error (.wrongType json.found expected)

/-- A number of things, in words. -/
def counted (n : Nat) : String := if n = 1 then "1 element" else toString n ++ " elements"

/-- Accepts a list of `length` items of which `used` were expected. -/
def checkLength (source : Source) (used length : Nat) : Except Mismatch Unit :=
  if length ≤ used then .ok ()
  else
    .error (.wrongLength length (match source with
      | .document => "fewer elements in array"
      | .aside => counted used ++ " in sequence"))

namespace Reader

variable {α β : Type}

/-- A reader whose result is put through a function. -/
def map (f : α → β) (reader : Reader α) : Reader β := fun source json => f <$> reader source json

/-- A reader that only accepts. -/
def accept (reader : Reader α) : Reader Unit := reader.map fun _ => ()

/-- Any value. -/
def any : Reader Unit := fun _ _ => .ok ()

/-- Nothing, which null stands for; an empty object that was put aside does too. -/
def nothing : Reader Unit
  | _, null => .ok ()
  | .aside, object [] => .ok ()
  | _, json => mistyped json "unit"

def boolean : Reader Bool
  | _, bool value => .ok value
  | _, json => mistyped json "a boolean"

def text : Reader String
  | _, string value => .ok value
  | _, json => mistyped json "a string"

/-- An integer between two bounds, the greater of which is excluded. -/
def integer (least bound : Int) (name : String) : Reader Int
  | _, json@(number value) =>
      if least ≤ value ∧ value < bound then .ok value
      else .error (.wrongValue json.found name)
  | _, json => mistyped json name

/-- An unsigned number below a bound. -/
def unsigned (bound : Nat) (name : String) : Reader Nat := (integer 0 bound name).map Int.toNat

/-- An unsigned number of 8 bits. -/
def octet : Reader Nat := unsigned UInt8.size "u8"

/-- An unsigned number of 32 bits. -/
def halfWord : Reader Nat := unsigned UInt32.size "u32"

/-- An unsigned number of 64 bits. -/
def word : Reader UInt64 := (unsigned UInt64.size "u64").map UInt64.ofNat

/-- An unsigned number of 64 bits that counts something. -/
def count : Reader Nat := unsigned UInt64.size "usize"

/-- A signed number of 64 bits. -/
def signedWord : Reader Int := integer (-(1 <<< 63)) (1 <<< 63) "i64"

/-- Any number. -/
def anyNumber : Reader Unit
  | _, number _ => .ok ()
  | _, real _ => .ok ()
  | _, json => mistyped json "f64"

/-- A version number. -/
def version : Reader Unit := fun source json => do
  (Text.Version.check (← text source json)).mapError .noVersion

/-- A value that may be null. -/
def nullable (reader : Reader α) : Reader (Option α)
  | _, null => .ok none
  | source, json => some <$> reader source json

/-- A list of any length. -/
def list (reader : Reader α) : Reader (List α)
  | source, array items => items.mapM (reader source)
  | _, json => mistyped json "a sequence"

/-- The two items of a list, where `expected` describes the pair. -/
def both (expected : String) (first : Reader α) (second : Reader β) (source : Source) :
    List Json → Except Mismatch (α × β)
  | [] => .error (.wrongLength 0 expected)
  | [a] => do
      let _ ← first source a
      throw (.wrongLength 1 expected)
  | a :: b :: rest => do
      let a ← first source a
      let b ← second source b
      checkLength source 2 (rest.length + 2)
      return (a, b)

/-- A list of two items. -/
def pair (first : Reader α) (second : Reader β) : Reader (α × β)
  | source, array items => both "a tuple of size 2" first second source items
  | _, json => mistyped json "a tuple of size 2"

end Reader

end IssuanceClient.Json
