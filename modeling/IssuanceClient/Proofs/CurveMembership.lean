import IssuanceClient.Ed25519.Curve
import Mathlib.Algebra.Group.Nat.Defs

/-!
Evaluating the test for curve points.  Powers are computed by recursion on the number of bits of the
exponent, so that the test can be run on given bytes.
-/

namespace IssuanceClient.Ed25519

namespace Field

/-- A power of a field element, for an exponent of so many bits. -/
def powerWithin : (bits : Nat) → Field → Nat → Field
  | 0, _, _ => 1
  | bits + 1, x, n =>
      let half := powerWithin bits (x * x) (n / 2)
      if n % 2 = 1 then x * half else half

theorem powerWithin_zero (bits : Nat) (x : Field) : powerWithin bits x 0 = 1 := by
  induction bits generalizing x with
  | zero => rfl
  | succ bits ih => exact ih (x * x)

theorem power_eq_powerWithin {bits n : Nat} (hbits : n < 2 ^ bits) (x : Field) :
    x.power n = powerWithin bits x n := by
  induction bits generalizing x n with
  | zero =>
      obtain rfl : n = 0 := by omega
      rw [power]
      rfl
  | succ bits ih =>
      rw [power]
      split
      · rename_i hzero
        rw [hzero, powerWithin_zero]
      · rw [ih (by rw [Nat.pow_succ] at hbits; omega)]
        rfl

end Field

/-- The test for curve points by a power that can be computed. -/
theorem isPoint_eq_powerWithin (bytes : Bytes 32) :
    isPoint bytes =
      let y := Field.ofNat (LittleEndian.decode bytes.toList % (1 <<< 255))
      let character :=
        Field.powerWithin 255 ((y * y - 1) * (d * (y * y) + 1)) ((fieldOrder - 1) / 2)
      (character == 0 || character == 1) := by
  have hbits : (fieldOrder - 1) / 2 < 2 ^ 255 := by decide
  rw [isPoint, Field.isSquare, Field.power_eq_powerWithin hbits]

end IssuanceClient.Ed25519
