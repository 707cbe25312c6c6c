import IssuanceClient.Bytes
import IssuanceClient.Bytes.LittleEndian

/-!
The Edwards curve over the prime field of order 2^255 - 19.  `isPoint` says which 32-byte strings
name a point: it is the test that keeps derived addresses apart from public keys.
-/

namespace IssuanceClient.Ed25519

/-- The order of the field. -/
def fieldOrder : Nat := (1 <<< 255) - 19

theorem fieldOrder_pos : 0 < fieldOrder := by decide

/-- Numbers modulo the order of the field. -/
abbrev Field := Fin fieldOrder

/-- The field element that a number denotes. -/
def Field.ofNat (n : Nat) : Field := ⟨n % fieldOrder, Nat.mod_lt n fieldOrder_pos⟩

instance (n : Nat) : OfNat Field n := ⟨Field.ofNat n⟩

/-- A power of a field element, by repeated squaring. -/
def Field.power (x : Field) (n : Nat) : Field :=
  if n = 0 then 1
  else
    let half := Field.power (x * x) (n / 2)
    if n % 2 = 1 then x * half else half
termination_by n
decreasing_by exact Nat.div_lt_self (by omega) (by omega)

/-- The multiplicative inverse, and zero for zero. -/
def Field.inverse (x : Field) : Field := x.power (fieldOrder - 2)

/-- Squares are the elements whose power to half the order of the unit group is one; zero counts. -/
def Field.isSquare (x : Field) : Bool :=
  let character := x.power ((fieldOrder - 1) / 2)
  character == 0 || character == 1

/-- The coefficient of the curve `y² - x² = 1 + d·x²·y²`. -/
def d : Field := Field.ofNat
  37095705934669439343138083508754565189542113879843219016388785533085940283555

/-- Whether a byte string names a point of the curve.  The low 255 bits, reduced, are the second
coordinate `y`; it belongs to a point when `(y² - 1) / (d·y² + 1)` is a square.  The denominator is
never zero, so that holds exactly when the product of the two is a square.  The top bit only chooses
between two points with the same `y`. -/
def isPoint (bytes : Bytes 32) : Bool :=
  let y := Field.ofNat (LittleEndian.decode bytes.toList % (1 <<< 255))
  let square := y * y
  Field.isSquare ((square - 1) * (d * square + 1))

/-- A point in extended coordinates: `x = X/Z`, `y = Y/Z` and `x·y = T/Z`. -/
structure Point where
  X : Field
  Y : Field
  Z : Field
  T : Field

namespace Point

/-- The point with coordinates `x` and `y`. -/
def ofAffine (x y : Field) : Point := ⟨x, y, 1, x * y⟩

/-- The neutral element. -/
def zero : Point := ofAffine 0 1

/-- The generator of the group in which keys and signatures lie. -/
def base : Point := ofAffine
  (Field.ofNat 15112221349535400772501151409588531511454012693041857206046113283949847762202)
  (Field.ofNat 46316835694926478169428394003475163141307993866256225615783033603165251855960)

/-- The sum of two points; the formula is complete on this curve. -/
def add (p q : Point) : Point :=
  let a := (p.Y - p.X) * (q.Y - q.X)
  let b := (p.Y + p.X) * (q.Y + q.X)
  let c := 2 * p.T * q.T * d
  let z := 2 * p.Z * q.Z
  let e := b - a
  let f := z - c
  let g := z + c
  let h := b + a
  ⟨e * f, g * h, f * g, e * h⟩

/-- A multiple of a point, by repeated doubling. -/
def multiple (p : Point) (n : Nat) : Point :=
  if n = 0 then zero
  else
    let half := multiple (p.add p) (n / 2)
    if n % 2 = 1 then p.add half else half
termination_by n
decreasing_by exact Nat.div_lt_self (by omega) (by omega)

/-- The 32 bytes that name a point: `y` in the low 255 bits and the parity of `x` in the top one. -/
def encode (p : Point) : Bytes 32 :=
  let inverse := p.Z.inverse
  let x := p.X * inverse
  let y := p.Y * inverse
  ⟨LittleEndian.encode 32 (y.val + (x.val % 2) <<< 255), LittleEndian.length_encode _ _⟩

end Point

end IssuanceClient.Ed25519
