/-!
# Lines

Two notions of a line live side by side. A reader of files turns every line ending into a newline first; a
line count by the wider set of Unicode line boundaries counts a part after the last boundary only if it is
not empty.

## Main definitions

* `normalizeNewlines`: carriage returns, alone or before a newline, become newlines.
* `lineCount`: the number of lines by the Unicode boundaries.
-/

namespace CodeAtlas.Text

/-- The characters with `\r\n` and a lone `\r` replaced by `\n`. -/
def normalizeNewlinesChars : List Char → List Char
  | [] => []
  | '\r' :: '\n' :: cs => '\n' :: normalizeNewlinesChars cs
  | c :: cs => (if c = '\r' then '\n' else c) :: normalizeNewlinesChars cs

/-- The text with `\r\n` and a lone `\r` replaced by `\n`. -/
def normalizeNewlines (s : String) : String :=
  String.ofList (normalizeNewlinesChars s.toList)

/-- A character that ends a line: newline, vertical tab, form feed, carriage return, the file, group and record
separators, next line, and the line and paragraph separators. -/
def isLineBoundary (c : Char) : Bool :=
  let n := c.toNat
  (10 ≤ n && n ≤ 13) || (0x1c ≤ n && n ≤ 0x1e) || n == 0x85 || n == 0x2028 || n == 0x2029

/-- The number of lines of `s`, where `pending` says that the current line has characters already. -/
def lineCountFrom (pending : Bool) : List Char → Nat
  | [] => if pending then 1 else 0
  | '\r' :: '\n' :: cs => lineCountFrom false cs + 1
  | c :: cs => if isLineBoundary c then lineCountFrom false cs + 1 else lineCountFrom true cs

/-- The number of lines of a text. A text that ends with a line boundary has no further empty line. -/
def lineCount (s : String) : Nat :=
  lineCountFrom false s.toList

end CodeAtlas.Text
