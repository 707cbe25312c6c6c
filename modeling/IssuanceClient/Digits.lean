/-!
Positional notation.  `digits base n` lists the digits of a number, least significant first, without
leading zeros, so that zero has none; `ofDigits` reads a digit list back.
-/

namespace IssuanceClient

/-- The digits of `n` in `base`, least significant first. -/
def digits (base n : Nat) : List Nat :=
  if n = 0 ∨ base < 2 then [] else n % base :: digits base (n / base)
termination_by n
decreasing_by exact Nat.div_lt_self (by omega) (by omega)

/-- The number that a list of digits denotes in `base`, least significant first. -/
def ofDigits (base : Nat) : List Nat → Nat
  | [] => 0
  | digit :: rest => digit + base * ofDigits base rest

theorem digits_zero (base : Nat) : digits base 0 = [] := by
  rw [digits]
  simp

theorem digits_of_pos {base n : Nat} (hbase : 2 ≤ base) (hn : 0 < n) :
    digits base n = n % base :: digits base (n / base) := by
  rw [digits, if_neg (by omega)]

end IssuanceClient
