/-!
# Numbers of the search index

The search index computes with quotients of whole numbers, sums, products, quotients and logarithms, and compares.
Everything about it is generic in the numbers: doubles when the index is used, and exact numbers when one reasons
about it.

## Main definitions

* `Scalar`: what the index needs of its numbers.
-/

namespace CodeAtlas.Search

/-- Numbers that a search index can be computed with. -/
class Scalar (R : Type) where
  /-- The quotient of two whole numbers. -/
  ratio : Int → Int → R
  /-- The sum. -/
  add : R → R → R
  /-- The product. -/
  mul : R → R → R
  /-- The quotient. -/
  div : R → R → R
  /-- The natural logarithm. -/
  log : R → R
  /-- Whether the first number is less than the second. -/
  less : R → R → Bool

namespace Scalar

variable {R : Type} [Scalar R]

/-- Zero. -/
def zero : R := ratio 0 1

/-- One. -/
def one : R := ratio 1 1

/-- The greater of two numbers; the first one if neither is. -/
def max (x y : R) : R :=
  if less x y then y else x

/-- The lesser of two numbers; the first one if neither is. -/
def min (x y : R) : R :=
  if less y x then y else x

end Scalar

/-- Doubles. -/
instance : Scalar Float where
  ratio m n := Float.ofInt m / Float.ofInt n
  add x y := x + y
  mul x y := x * y
  div x y := x / y
  log := Float.log
  less x y := x < y

end CodeAtlas.Search
