import CodeAtlas.Decimal.Binary

/-!
# Rounding to decimal places

A finite double is rounded to a number of places from its exact value; a half goes to the even neighbour.

## Main definitions

* `roundDiv`: the nearest integer to a quotient, a half going to the even neighbour.
* `unitsAt`: a finite double in units of its last kept place.
* `toFloat`: the double nearest to a decimal.
* `roundFloat`: a double rounded to some places, again as a double.
* `fixedText`: a double written with a fixed number of places.

## Main results

* `roundDiv_near`: the rounded quotient is within half a unit.
-/

namespace CodeAtlas.Decimal

/-- The integer nearest to `num / den`; a half goes to the even neighbour. -/
def roundDiv (num den : Nat) : Nat :=
  let below := num / den
  let rest := num % den
  if 2 * rest < den then below
  else if 2 * rest > den then below + 1
  else if below % 2 = 0 then below else below + 1

/-- **The rounded quotient is within half a unit.** -/
theorem roundDiv_near (num den : Nat) (h : 0 < den) :
    2 * den * roundDiv num den ≤ 2 * num + den ∧ 2 * num ≤ 2 * den * roundDiv num den + den := by
  have split := Nat.div_add_mod num den
  have small := Nat.mod_lt num h
  unfold roundDiv
  have grow : 2 * den * (num / den + 1) = 2 * (den * (num / den)) + 2 * den := by
    rw [Nat.mul_add, Nat.mul_assoc]; omega
  have same : 2 * den * (num / den) = 2 * (den * (num / den)) := Nat.mul_assoc ..
  dsimp only
  split
  · omega
  · split
    · omega
    · split <;> omega

/-- The absolute value of a binary number in units of `10 ^ (-places)`. -/
def unitsAt (places : Nat) (value : Binary) : Nat :=
  let (num, den) := scaled value.significand value.exponent places
  roundDiv num den

/-- The double nearest to `± mantissa * 10 ^ exponent`. A decimal far outside the range of doubles is not
computed. -/
def toFloat (negative : Bool) (mantissa : Nat) (exponent : Int) : Float :=
  let size : Int := (Nat.toDigits 10 mantissa).length + exponent
  let magnitude :=
    if mantissa = 0 || size < -400 then 0.0
    else if size > 400 then 1.0 / 0.0
    else if exponent < 0 then Float.ofScientific mantissa true exponent.natAbs
    else Float.ofScientific mantissa false exponent.natAbs
  if negative then -magnitude else magnitude

/-- A double rounded to some decimal places, as a double again. -/
def roundFloat (places : Nat) (x : Float) : Float :=
  match classify x with
  | .finite value => toFloat value.negative (unitsAt places value) (-(places : Int))
  | _ => x

/-- The digits of `n`, padded with zeros in front to at least `width` digits. -/
def padded (width n : Nat) : List Char :=
  let digits := Nat.toDigits 10 n
  List.replicate (width - digits.length) '0' ++ digits

/-- A double with exactly `places` digits after the point. -/
def fixedText (places : Nat) (x : Float) : String :=
  match classify x with
  | .finite value =>
    let digits := padded (places + 1) (unitsAt places value)
    let whole := digits.take (digits.length - places)
    let fraction := digits.drop (digits.length - places)
    let sign := if value.negative then ['-'] else []
    String.ofList (sign ++ whole ++ (if places = 0 then [] else '.' :: fraction))
  | .infinite negative => if negative then "-inf" else "inf"
  | .notANumber => "nan"

end CodeAtlas.Decimal
