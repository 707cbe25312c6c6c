import IssuanceClient.Digits
import IssuanceClient.Json
import IssuanceClient.Text.Decimal

/-!
Numbers as JSON texts write them.  An integer that 64 bits can hold, with or without a sign, is kept
as it is.  Every other number becomes a binary floating-point number: of its digits it takes as many
as 64 bits can hold, and scales them by its power of ten, one rounding a step.
-/

namespace IssuanceClient.Json

/-- A number in decimal notation: its digits before and after the point, most significant first, and
its power of ten where it has one. -/
structure Numeral where
  negative : Bool
  whole : List Nat
  fraction : List Nat
  power : Option Int
deriving DecidableEq, Repr

namespace Numeral

/-- The digits at the front of some characters, and the characters after them. -/
def leadingDigits : List Char → List Nat × List Char
  | [] => ([], [])
  | c :: rest =>
      match Text.digitValue? c with
      | some digit =>
          let (digits, after) := leadingDigits rest
          (digit :: digits, after)
      | none => ([], c :: rest)

/-- The number that digits denote, most significant first. -/
def decimal (digits : List Nat) : Nat := ofDigits 10 digits.reverse

/-- A power of ten, written after the letter `e`. -/
def power? (chars : List Char) : Option Int :=
  let (negative, chars) := match chars with
    | '-' :: rest => (true, rest)
    | '+' :: rest => (false, rest)
    | chars => (false, chars)
  match leadingDigits chars with
  | ([], _) => none
  | (digits, []) => some (if negative then -(decimal digits : Int) else decimal digits)
  | _ => none

/-- What may follow the digits before the point: a fraction, a power of ten, or both. -/
def afterWhole? (negative : Bool) (whole : List Nat) (chars : List Char) : Option Numeral := do
  let (fraction, rest) ← match chars with
    | '.' :: rest =>
        match leadingDigits rest with
        | ([], _) => none
        | found => some found
    | rest => some ([], rest)
  match rest with
  | [] => return ⟨negative, whole, fraction, none⟩
  | 'e' :: rest => return ⟨negative, whole, fraction, some (← power? rest)⟩
  | 'E' :: rest => return ⟨negative, whole, fraction, some (← power? rest)⟩
  | _ => none

/-- Reads a number.  A digit stands on either side of a point, and the digits before it start with a
zero only where that is the only one. -/
def ofChars? (chars : List Char) : Option Numeral :=
  let (negative, chars) := match chars with
    | '-' :: rest => (true, rest)
    | chars => (false, chars)
  match leadingDigits chars with
  | ([], _) => none
  | (0 :: _ :: _, _) => none
  | (whole, rest) => afterWhole? negative whole rest

/-- Appends digits to a number as long as it fits into 64 bits.  The second result says how many
digits are left over. -/
def fill : (value : Nat) → List Nat → Nat × Nat
  | value, [] => (value, 0)
  | value, digit :: rest =>
      let next := 10 * value + digit
      if next < UInt64.size then fill next rest else (value, rest.length + 1)

/-- The greatest power of ten by which a number is scaled in one step. -/
def greatestPower : Nat := 308

/-- A number divided by a power of ten, in steps that floating point can hold. -/
def lowered (x : Binary64) (places : Nat) : Binary64 :=
  if places ≤ greatestPower then x.div (.powerOfTen places)
  else if x.isZero then x
  else lowered (x.div (.powerOfTen greatestPower)) (places - greatestPower)
termination_by places
decreasing_by
  simp only [greatestPower] at *
  omega

/-- A number multiplied by a power of ten, if floating point can hold the result. -/
def raised? (x : Binary64) (places : Nat) : Option Binary64 :=
  if places ≤ greatestPower then
    let y := x.mul (.powerOfTen places)
    if y.isFinite then some y else none
  else if x.isZero then some x
  else none

/-- The floating-point number that a numeral gives. -/
def real? (numeral : Numeral) : Option Binary64 := do
  let (whole, dropped) := fill 0 numeral.whole
  let (significand, unread) := fill whole numeral.fraction
  let places : Int := numeral.fraction.length - unread
  let x ← match dropped - places + numeral.power.getD 0 with
    | .ofNat power => raised? (.ofNat significand) power
    | .negSucc power => some (lowered (.ofNat significand) (power + 1))
  return { x with negative := numeral.negative }

/-- The integer that a numeral gives, unless it needs floating point.  Zero has no sign here. -/
def integer? (numeral : Numeral) : Option Int :=
  if numeral.fraction ≠ [] ∨ numeral.power ≠ none then none
  else
    let value := decimal numeral.whole
    if numeral.negative then
      if 0 < value ∧ value ≤ 1 <<< 63 then some (-value) else none
    else if value < UInt64.size then some value
    else none

/-- The JSON value of a numeral. -/
def value? (numeral : Numeral) : Option Json :=
  match numeral.integer? with
  | some value => some (.number value)
  | none => numeral.real?.map .real

end Numeral

end IssuanceClient.Json
