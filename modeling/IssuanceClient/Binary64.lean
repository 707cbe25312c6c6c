/-!
Binary floating-point numbers of 64 bits, held as exact integers.  An operation gives the number of
the format that is nearest to the exact result, a tie going to the even significand.
-/

namespace IssuanceClient

/-- A number of the format, `significand * 2 ^ power` with a sign.  The significand has 53 bits, or
fewer where the power is the least one, -1074.  Zero has a sign too. -/
structure Binary64 where
  negative : Bool
  significand : Nat
  power : Int
deriving DecidableEq, Repr

namespace Binary64

/-- The quotient of two naturals to the nearest natural, a half to the even neighbour. -/
def roundedQuotient (n d : Nat) : Nat :=
  let q := n / d
  let twiceRest := 2 * (n % d)
  if twiceRest < d ∨ twiceRest = d ∧ q % 2 = 0 then q else q + 1

/-- The numerator and the denominator of `n / d * base ^ power`. -/
def scaled (n d base : Nat) (power : Int) : Nat × Nat :=
  match power with
  | .ofNat p => (n * Nat.pow base p, d)
  | .negSucc p => (n, d * Nat.pow base (p + 1))

/-- The number without a sign that is nearest to a fraction.  Nothing bounds its power above. -/
def nearest (n d : Nat) : Binary64 :=
  if n = 0 then ⟨false, 0, -1074⟩
  else
    let estimate := (n.log2 : Int) - d.log2 - 53
    let (n', d') := scaled n d 2 (-estimate)
    let power := max (-1074) (if n' / d' < 1 <<< 53 then estimate else estimate + 1)
    let (n', d') := scaled n d 2 (-power)
    let significand := roundedQuotient n' d'
    if significand = 1 <<< 53 then ⟨false, 1 <<< 52, power + 1⟩ else ⟨false, significand, power⟩

/-- The number nearest to a natural. -/
def ofNat (n : Nat) : Binary64 := nearest n 1

/-- The number nearest to a power of ten. -/
def powerOfTen (exponent : Nat) : Binary64 := ofNat (Nat.pow 10 exponent)

/-- Whether a number is zero, of either sign. -/
def isZero (x : Binary64) : Bool := x.significand = 0

/-- Whether a number is small enough for 64 bits. -/
def isFinite (x : Binary64) : Bool := x.power ≤ 971

/-- The product of two numbers. -/
def mul (x y : Binary64) : Binary64 :=
  let (n, d) := scaled (x.significand * y.significand) 1 2 (x.power + y.power)
  { nearest n d with negative := x.negative != y.negative }

/-- The quotient of two numbers, of which the second is not zero. -/
def div (x y : Binary64) : Binary64 :=
  let (n, d) := scaled x.significand y.significand 2 (x.power - y.power)
  { nearest n d with negative := x.negative != y.negative }

end Binary64

end IssuanceClient
