/-!
# Binary floating point numbers, exactly

A finite double is an integer times a power of two. Everything the library writes about a double is computed
from that exact value.

## Main definitions

* `Binary`: sign, significand and exponent of a finite double.
* `Class`: a double is a finite binary number, an infinity or not a number.
* `classify`: the class of a double.
* `scaled`: the value times a power of ten, as a quotient of natural numbers.
-/

namespace CodeAtlas.Decimal

/-- The number `± significand * 2 ^ exponent`. -/
structure Binary where
  /-- Whether the sign bit is set. -/
  negative : Bool
  /-- The significand, a natural number below `2 ^ 53`. -/
  significand : Nat
  /-- The exponent of two. -/
  exponent : Int
  deriving DecidableEq

/-- What a double stands for. -/
inductive Class where
  /-- A finite number. -/
  | finite (value : Binary)
  /-- An infinity. -/
  | infinite (negative : Bool)
  /-- Not a number. -/
  | notANumber
  deriving DecidableEq

/-- The leading bit of the significand, which the bits of a double do not hold: `2 ^ 52`. -/
def leadingBit : Nat := 0x10000000000000

/-- The class of a double, read off its bits: a sign, eleven bits of exponent, and the fraction. -/
def classify (x : Float) : Class :=
  let bits := x.toBits.toNat
  let negative := decide (2048 * leadingBit ≤ bits)
  let biased : Nat := bits / leadingBit % 2048
  let fraction : Nat := bits % leadingBit
  if biased = 2047 then
    if fraction = 0 then .infinite negative else .notANumber
  else if biased = 0 then .finite ⟨negative, fraction, -1074⟩
  else .finite ⟨negative, fraction + leadingBit, (biased : Int) - 1075⟩

/-- Numerator and denominator of `n * 2 ^ e * 10 ^ p`. -/
def scaled (n : Nat) (e p : Int) : Nat × Nat :=
  (n * Nat.pow 2 e.toNat * Nat.pow 10 p.toNat, Nat.pow 2 (-e).toNat * Nat.pow 10 (-p).toNat)

end CodeAtlas.Decimal
