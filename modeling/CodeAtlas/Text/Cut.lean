/-!
# Cutting and joining

A text is cut at every occurrence of one character, and pieces are joined again with a separator. Cutting
always gives at least one piece, so the empty text is cut into one empty piece.

## Main definitions

* `cutAt`: the pieces of a text between the occurrences of a character.
* `joinWith`: pieces with a separator between them.
* `afterLast`: the part of a text after the last occurrence of a character.
-/

namespace CodeAtlas.Text

/-- The pieces of `s` between the occurrences of `sep`. -/
def cutAt (sep : Char) (s : String) : List String :=
  (List.splitOn sep s.toList).map String.ofList

/-- The pieces with `sep` between any two of them. -/
def joinWith (sep : String) (pieces : List String) : String :=
  String.ofList (List.intercalate sep.toList (pieces.map String.toList))

/-- The part of `s` after the last `sep`, or all of `s` if it has none. -/
def afterLast (sep : Char) (s : String) : String :=
  (cutAt sep s).getLastD s

/-- The text with its first `front` and its last `back` characters removed. -/
def trim (front back : Nat) (s : String) : String :=
  String.ofList ((s.toList.drop front).reverse.drop back).reverse

/-- Whether the text starts with `head`. -/
def startsWith (head s : String) : Bool :=
  head.toList.isPrefixOf s.toList

/-- Whether the text contains `c`. -/
def hasChar (c : Char) (s : String) : Bool :=
  s.toList.contains c

end CodeAtlas.Text
