import IssuanceClient.Binary64

/-!
The text of a binary floating-point number: the fewest digits that read back as the same number, and
of those the nearest to it.
-/

namespace IssuanceClient.Binary64

/-- A positive decimal number, `digits * 10 ^ power`. -/
structure Decimal where
  digits : Nat
  power : Int

/-- The power of ten of the first digit of a positive fraction. -/
def leadingPower (n d : Nat) : Int :=
  let length (k : Nat) : Int := (Nat.toDigits 10 k).length
  let estimate := length n - length d
  let (n', d') := scaled n d 10 (-estimate)
  if d' ≤ n' then estimate else estimate - 1

/-- The neighbours of a number among the multiples of `10 ^ power`, the nearer one first, a tie
going to the even one. -/
def neighbours (n d : Nat) (power : Int) : List Nat :=
  let (n', d') := scaled n d 10 (-power)
  let near := roundedQuotient n' d'
  let low := n' / d'
  if near = low then [low, low + 1] else [low + 1, low]

/-- Whether a decimal reads back as a number.  The numbers that do lie between the middles to its
two neighbours, of which the lower one is nearer below a power of two; the middles themselves belong
to the number if its significand is even. -/
def readsBack (x : Binary64) (decimal : Decimal) : Bool :=
  let below := if x.significand = 1 <<< 52 ∧ -1074 < x.power then 1 else 2
  let (n, d) := scaled decimal.digits 1 10 decimal.power
  let (n, d) := scaled n d 2 (2 - x.power)
  let low := (4 * x.significand - below) * d
  let high := (4 * x.significand + 2) * d
  if x.significand % 2 = 0 then low ≤ n ∧ n ≤ high else low < n ∧ n < high

/-- The shortest decimal that reads back as a number; 17 digits always do. -/
def shortest (x : Binary64) : Decimal :=
  let (n, d) := scaled x.significand 1 2 x.power
  let lead := leadingPower n d
  let found := (List.range 17).findSome? fun places : Nat =>
    let power := lead - places
    ((neighbours n d power).map (Decimal.mk · power)).find? (readsBack x)
  match found with
  | some ⟨10, power⟩ => ⟨1, power + 1⟩
  | some decimal => decimal
  | none => ⟨n / d, 0⟩

/-- How a decimal is written: with a point among its digits or a few zeros from them, and else with
the point after the first digit and a power of ten, whose sign is always written. -/
def layout (decimal : Decimal) : String :=
  let digits := Nat.toDigits 10 decimal.digits
  let lead := decimal.power + digits.length - 1
  let zeros (k : Int) := List.replicate k.toNat '0'
  let chars :=
    if 0 ≤ decimal.power ∧ lead ≤ 15 then digits ++ zeros decimal.power ++ ['.', '0']
    else if 0 ≤ lead ∧ lead ≤ 15 then
      digits.take (lead.toNat + 1) ++ '.' :: digits.drop (lead.toNat + 1)
    else if -5 ≤ lead ∧ lead < 0 then '0' :: '.' :: zeros (-lead - 1) ++ digits
    else
      let fraction := if digits.length = 1 then [] else '.' :: digits.drop 1
      let sign := if lead < 0 then '-' else '+'
      digits.take 1 ++ fraction ++ 'e' :: sign :: Nat.toDigits 10 lead.natAbs
  String.ofList chars

/-- The text of a number. -/
def text (x : Binary64) : String :=
  let magnitude := if x.isZero then "0.0" else layout (shortest x)
  if x.negative then "-" ++ magnitude else magnitude

end IssuanceClient.Binary64
