/-!
Reading a decimal number that must not exceed a limit.
-/

namespace IssuanceClient.Text

/-- Why a text is no number within the limit. -/
inductive NumberFault
  | invalidDigit
  | tooLarge
deriving DecidableEq, Repr

def NumberFault.message : NumberFault → String
  | .invalidDigit => "invalid digit found in string"
  | .tooLarge => "number too large to fit in target type"

/-- The value of an ASCII digit. -/
def digitValue? (c : Char) : Option Nat :=
  if '0' ≤ c ∧ c ≤ '9' then some (c.toNat - '0'.toNat) else none

/-- Reads the remaining digits of a number whose first digits gave `value`.  The first character
that cannot be taken, because it is no digit or leads past the limit, decides the fault. -/
def readDigits (limit : Nat) : (value : Nat) → List Char → Except NumberFault Nat
  | value, [] => .ok value
  | value, c :: rest =>
      match digitValue? c with
      | none => .error .invalidDigit
      | some digit =>
          let next := 10 * value + digit
          if next ≤ limit then readDigits limit next rest else .error .tooLarge

/-- Reads an unsigned number: at least one digit, after at most one plus sign. -/
def readUnsigned (limit : Nat) (text : String) : Except NumberFault Nat :=
  let chars := match text.toList with
    | '+' :: rest => rest
    | chars => chars
  if chars.isEmpty then .error .invalidDigit else readDigits limit 0 chars

end IssuanceClient.Text
