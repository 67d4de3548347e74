import CodeAtlas.Decimal.Binary

/-!
# Shortest decimal digits

The decimal with the fewest digits that reads back as a given double, and of those the nearest to its exact
value. For 1, 2, … 17 digits the two neighbours of the value on that decimal grid are tested against the
interval of reals that round to the double; the first grid with a hit wins.

## Main definitions

* `Digits`: a decimal as an integer times a power of ten.
* `shortest`: the shortest decimal of a positive binary number.
-/

namespace CodeAtlas.Decimal

/-- The number `digits * 10 ^ exponent`. -/
structure Digits where
  /-- The digits as one natural number. -/
  digits : Nat
  /-- The power of ten that scales them. -/
  exponent : Int
  deriving DecidableEq, Repr

/-- Whether `n * 10 ^ p` rounds to the double `m * 2 ^ q`. All distances are in quarters of `2 ^ q`: the interval
reaches half a unit up, half a unit down, or a quarter of a unit down where the spacing changes. Its ends
belong to it if `m` is even. -/
def roundsTo (m : Nat) (q : Int) (n : Nat) (p : Int) : Bool :=
  let low := if m = leadingBit && q ≠ -1074 then 4 * m - 1 else 4 * m - 2
  let high := 4 * m + 2
  -- compare `n * 10 ^ p` with `bound * 2 ^ (q - 2)`
  let (left, rightUnit) := scaled n (2 - q) p
  if m % 2 = 0 then low * rightUnit ≤ left && left ≤ high * rightUnit
  else low * rightUnit < left && left < high * rightUnit

/-- The number of decimal digits of `n`, at least one. -/
def digitCount (n : Nat) : Nat :=
  (Nat.toDigits 10 n).length

/-- The exponent `k` with `10 ^ (k - 1) ≤ m * 2 ^ q < 10 ^ k`, for positive `m`. -/
def magnitude (m : Nat) (q : Int) : Int :=
  let (num, den) := scaled m q 0
  let whole := num / den
  if whole > 0 then digitCount whole
  else
    -- the reciprocal tells how many zeros follow the point
    let inverse := den / num
    let k : Int := 1 - digitCount inverse
    -- an exact power of ten sits at the lower end of its decade
    if num * Nat.pow 10 (1 - k).toNat ≥ den then k else k - 1

/-- The neighbour of `m * 2 ^ q` on the grid of multiples of `10 ^ p` that rounds to it, the nearer of the two,
on a tie the even one. -/
def gridHit (m : Nat) (q : Int) (p : Int) : Option Nat :=
  let (num, den) := scaled m q (-p)
  let below := num / den
  let rest := num % den
  let above := below + 1
  match roundsTo m q below p, roundsTo m q above p with
  | true, true =>
    if 2 * rest < den then some below
    else if 2 * rest > den then some above
    else if below % 2 = 0 then some below else some above
  | true, false => some below
  | false, true => some above
  | false, false => none

/-- The first hit among the grids with `count`, `count + 1`, … digits. -/
def searchGrids (m : Nat) (q top : Int) : Nat → Nat → Digits
  | 0, count => ⟨m, top - count⟩
  | fuel + 1, count =>
    match gridHit m q (top - count) with
    | some n => ⟨n, top - count⟩
    | none => searchGrids m q top fuel (count + 1)

/-- The shortest decimal that reads back as `m * 2 ^ q`, for positive `m`. Seventeen digits always suffice. -/
def shortest (m : Nat) (q : Int) : Digits :=
  searchGrids m q (magnitude m q) 17 1

end CodeAtlas.Decimal
