import IssuanceClient.Binary64.Text
import IssuanceClient.Json
import IssuanceClient.Text.Version

/-!
What is wrong with a JSON value that does not have the form it should have, and how messages word
it.
-/

namespace IssuanceClient.Json

/-- What stands where something else was expected. -/
inductive Found
  | null
  | boolean (value : Bool)
  | integer (value : Int)
  | real (value : Binary64)
  | string (value : String)
  | sequence
  | map
  /-- The name of a case that comes without content. -/
  | bareName
deriving DecidableEq, Repr

/-- What a value is. -/
def found : Json → Found
  | null => .null
  | bool value => .boolean value
  | number value => .integer value
  | real value => .real value
  | string value => .string value
  | array _ => .sequence
  | object _ => .map

/-- A word of a message that stands for a name or a value. -/
def ticked (text : String) : String := "\x60" ++ text ++ "\x60"

def Found.description : Found → String
  | null => "null"
  | boolean value => "boolean " ++ ticked (if value then "true" else "false")
  | integer value => "integer " ++ ticked (toString value)
  | real value => "floating point " ++ ticked value.text
  | string value => "string " ++ Text.quoted value
  | sequence => "sequence"
  | map => "map"
  | bareName => "unit variant"

/-- Why a value does not have the form it should have. -/
inductive Mismatch
  | wrongType (found : Found) (expected : String)
  | wrongValue (found : Found) (expected : String)
  | wrongLength (length : Nat) (expected : String)
  | missingField (name : String)
  | unknownCase (name : String) (known : List String)
  | noAlternative (name : String)
  | noVersion (fault : Text.VersionFault)
deriving DecidableEq, Repr

/-- A choice between names, in words. -/
def choiceOf : List String → String
  | [] => "there are no variants"
  | [a] => "expected " ++ ticked a
  | [a, b] => "expected " ++ ticked a ++ " or " ++ ticked b
  | names => "expected one of " ++ String.intercalate ", " (names.map ticked)

def Mismatch.message : Mismatch → String
  | wrongType found expected => "invalid type: " ++ found.description ++ ", expected " ++ expected
  | wrongValue found expected => "invalid value: " ++ found.description ++ ", expected " ++ expected
  | wrongLength length expected => "invalid length " ++ toString length ++ ", expected " ++ expected
  | missingField name => "missing field " ++ ticked name
  | unknownCase name known => "unknown variant " ++ ticked name ++ ", " ++ choiceOf known
  | noAlternative name => "data did not match any variant of untagged enum " ++ name
  | noVersion fault => fault.message

end IssuanceClient.Json
