/-!
# Coded tables

Large character tables are kept as lines of numbers in base sixteen: a blank stands between the numbers of a row, a
semicolon between the rows of a line.

## Main definitions

* `codeRows`: the rows of a coded table.
* `codeRanges`: the ranges of a coded table of ranges.
-/

namespace CodeAtlas.Text

/-- The value of a digit in base sixteen, with small letters. -/
def hexDigitValue (c : Char) : Nat :=
  if c ≤ '9' then c.toNat - '0'.toNat else c.toNat - 'a'.toNat + 10

/-- What has been read of a line: the finished rows and the finished numbers of the last row, both in reverse,
and the number that is being read. -/
structure CodeReading where
  /-- The finished rows, the last one first. -/
  rows : List (List Nat) := []
  /-- The finished numbers of the row that is being read, the last one first. -/
  row : List Nat := []
  /-- The value of the digits since the last separator. -/
  number : Nat := 0

/-- Reads one more character. -/
def CodeReading.push (r : CodeReading) (c : Char) : CodeReading :=
  if c = ' ' then { r with row := r.number :: r.row, number := 0 }
  else if c = ';' then ⟨(r.number :: r.row).reverse :: r.rows, [], 0⟩
  else { r with number := 16 * r.number + hexDigitValue c }

/-- The rows of one line. -/
def lineRows (line : String) : List (List Nat) :=
  ((line.toList ++ [';']).foldl CodeReading.push {}).rows.reverse

/-- The rows of a coded table. -/
def codeRows (lines : List String) : List (List Nat) :=
  lines.flatMap lineRows

example : codeRows ["a0 1 20;c0 1 41 300", "c1 1 41 301"] =
    [[160, 1, 32], [192, 1, 65, 768], [193, 1, 65, 769]] := by decide

/-- The ranges of a coded table. A row has the first and the last number of a range, or its only one. -/
def codeRanges (lines : List String) : List (Nat × Nat) :=
  (codeRows lines).map fun row => (row.headD 0, row.getLastD 0)

example : codeRanges ["aa;c0 d6"] = [(170, 170), (192, 214)] := by decide

end CodeAtlas.Text
