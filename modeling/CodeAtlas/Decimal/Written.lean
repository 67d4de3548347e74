import CodeAtlas.Decimal.Shortest

/-!
# Written form of a double

A double is written with its shortest digits. The format decides where positional notation ends and how the
exponent looks.

## Main definitions

* `Format`: the decisions of a written form.
* `Format.write`: the text of a double.
* `plain`: the form used in reports and in source text.
-/

namespace CodeAtlas.Decimal

/-- The decisions that turn digits into a text. -/
structure Format where
  /-- The least decimal exponent of the leading digit that is written positionally. -/
  leastPositional : Int
  /-- The first decimal exponent of the leading digit that is no longer written positionally. -/
  firstScientific : Int
  /-- The least number of digits of an exponent. -/
  exponentWidth : Nat
  /-- What is written after a whole number in positional notation. -/
  wholeTail : String
  /-- The text of an infinity without its sign. -/
  infinity : String
  /-- The text of what is not a number. -/
  notANumber : String

/-- Digits without trailing zeros, and the exponent that makes up for them. -/
def Digits.normalize (d : Digits) : List Char × Int :=
  let all := Nat.toDigits 10 d.digits
  let kept := (all.reverse.dropWhile (· == '0')).reverse
  (kept, d.exponent + (all.length - kept.length : Nat))

/-- The text of positive digits `digits * 10 ^ exponent`. -/
def Format.writeDigits (format : Format) (digits : List Char) (exponent : Int) : List Char :=
  let lead : Int := exponent + digits.length - 1
  if format.leastPositional ≤ lead && lead < format.firstScientific then
    if 0 ≤ exponent then
      digits ++ List.replicate exponent.toNat '0' ++ format.wholeTail.toList
    else if 0 ≤ lead then
      digits.take (lead.toNat + 1) ++ '.' :: digits.drop (lead.toNat + 1)
    else '0' :: '.' :: List.replicate (-lead - 1).toNat '0' ++ digits
  else
    let fraction :=
      match digits.drop 1 with
      | [] => []
      | rest => '.' :: rest
    let size := Nat.toDigits 10 lead.natAbs
    digits.take 1 ++ fraction ++ 'e' :: (if lead < 0 then '-' else '+') ::
      (List.replicate (format.exponentWidth - size.length) '0' ++ size)

/-- The text of a double. -/
def Format.write (format : Format) (x : Float) : String :=
  match classify x with
  | .notANumber => format.notANumber
  | .infinite negative => (if negative then "-" else "") ++ format.infinity
  | .finite value =>
    let body :=
      if value.significand = 0 then '0' :: format.wholeTail.toList
      else
        let (digits, exponent) := (shortest value.significand value.exponent).normalize
        format.writeDigits digits exponent
    String.ofList (if value.negative then '-' :: body else body)

/-- Positional from `0.0001` up to, but not including, `1e+16`; whole numbers end in `.0`; exponents have at
least two digits. -/
def plain : Format where
  leastPositional := -4
  firstScientific := 16
  exponentWidth := 2
  wholeTail := ".0"
  infinity := "inf"
  notANumber := "nan"

end CodeAtlas.Decimal
