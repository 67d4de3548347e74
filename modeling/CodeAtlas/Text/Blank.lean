/-!
# Blank characters

Which characters count as blank, how blanks are removed from the ends of a text, and how a text falls
into words at its blanks.

## Main definitions

* `isBlank`: the 29 blank characters.
* `strip`, `stripStart`: a text without the blanks at its ends, or at its start.
* `words`: the maximal runs of characters that are not blank.
-/

namespace CodeAtlas.Text

/-- A blank: the ASCII controls from tab to carriage return, the four information separators, the space, and
the separators of Unicode. -/
def isBlank (c : Char) : Bool :=
  let n := c.toNat
  (9 ≤ n && n ≤ 13) || (28 ≤ n && n ≤ 32) || n == 0x85 || n == 0xa0 || n == 0x1680 ||
    (0x2000 ≤ n && n ≤ 0x200a) || n == 0x2028 || n == 0x2029 || n == 0x202f || n == 0x205f || n == 0x3000

/-- The characters after the leading blanks. -/
def stripStartChars (s : List Char) : List Char :=
  s.dropWhile isBlank

/-- The characters before the trailing blanks. -/
def stripEndChars (s : List Char) : List Char :=
  (s.reverse.dropWhile isBlank).reverse

/-- The characters between the leading and the trailing blanks. -/
def stripChars (s : List Char) : List Char :=
  stripEndChars (stripStartChars s)

/-- A text without its leading blanks. -/
def stripStart (s : String) : String :=
  String.ofList (stripStartChars s.toList)

/-- A text without the blanks at both ends. -/
def strip (s : String) : String :=
  String.ofList (stripChars s.toList)

/-- The words of a text whose current word, read backwards, is `word`. -/
def wordsFrom (word : List Char) : List Char → List (List Char)
  | [] => if word.isEmpty then [] else [word.reverse]
  | c :: cs =>
    if isBlank c then
      if word.isEmpty then wordsFrom [] cs else word.reverse :: wordsFrom [] cs
    else wordsFrom (c :: word) cs

/-- The maximal runs of characters that are not blank, in order. -/
def words (s : String) : List String :=
  (wordsFrom [] s.toList).map String.ofList

@[simp] theorem wordsFrom_nil_nil : wordsFrom [] [] = [] := rfl

end CodeAtlas.Text
