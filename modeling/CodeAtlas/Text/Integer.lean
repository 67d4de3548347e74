import CodeAtlas.Text.Blank
import CodeAtlas.Text.Table.DigitZero

/-!
# Whole numbers in texts

A whole number is written with an optional sign and decimal digits of any script. A single underscore may stand
between two digits, and blanks may stand around it all.

## Main definitions

* `digitValue?`: the value of a digit.
* `readInteger?`: the whole number of a text.
-/

namespace CodeAtlas.Text

/-- The value of a decimal digit of any script. -/
def digitValue? (c : Char) : Option Nat :=
  (Table.digitZero.find? fun first => first ≤ c.toNat && c.toNat < first + 10).map fun first => c.toNat - first

/-- The values of the digits, where an underscore may stand between two of them. `between` says whether the last
character was a digit. -/
def readDigits (between : Bool) : List Char → Option (List Nat)
  | [] => if between then some [] else none
  | c :: cs =>
    if c = '_' then if between then readDigits false cs else none
    else
      match digitValue? c with
      | some d => (readDigits true cs).map (d :: ·)
      | none => none

/-- The longest number of digits that is read. -/
def maxDigits : Nat := 4300

/-- The number written with some digits. -/
def readNatural? (cs : List Char) : Option Nat :=
  match readDigits false cs with
  | some digits => if digits.length ≤ maxDigits then some (digits.foldl (fun n d => 10 * n + d) 0) else none
  | none => none

/-- The whole number of a text. -/
def readInteger? (s : String) : Option Int :=
  match stripChars s.toList with
  | '-' :: cs => (readNatural? cs).map fun n => -(n : Int)
  | '+' :: cs => (readNatural? cs).map fun n => (n : Int)
  | cs => (readNatural? cs).map fun n => (n : Int)

end CodeAtlas.Text
