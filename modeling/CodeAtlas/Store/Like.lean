/-!
# Text patterns of queries

A pattern is a text in which a percent sign stands for any characters and an underscore for one character. A
backslash takes the special meaning from the character after it. ASCII letters match in either case.

## Main definitions

* `escapeLike`: the pattern that stands for a text itself.
* `likePieces`: the pieces of a pattern.
* `like`: whether a text matches a pattern.
-/

namespace CodeAtlas.Store

/-- The characters with a backslash in front of every backslash, percent sign and underscore. -/
def escapeLikeChars : List Char → List Char
  | [] => []
  | c :: cs =>
    if c = '\\' ∨ c = '%' ∨ c = '_' then '\\' :: c :: escapeLikeChars cs else c :: escapeLikeChars cs

/-- The pattern that stands for a text itself. -/
def escapeLike (text : String) : String :=
  String.ofList (escapeLikeChars text.toList)

/-- A piece of a pattern. -/
inductive LikePiece where
  /-- Any characters. -/
  | any
  /-- One character. -/
  | one
  /-- A character, up to the case of an ASCII letter. -/
  | char (c : Char)
  deriving DecidableEq, Repr

/-- The pieces of a pattern. A pattern that ends in a lone backslash has none. -/
def likePieces : List Char → Option (List LikePiece)
  | [] => some []
  | ['\\'] => none
  | '\\' :: c :: cs => (likePieces cs).map (.char c :: ·)
  | '%' :: cs => (likePieces cs).map (.any :: ·)
  | '_' :: cs => (likePieces cs).map (.one :: ·)
  | c :: cs => (likePieces cs).map (.char c :: ·)

/-- Whether two characters are equal up to the case of ASCII letters. -/
def sameLetter (a b : Char) : Bool :=
  a.toLower == b.toLower

/-- What is left of some characters after leaving out some of them at the front, the characters themselves first. -/
def leftOvers : List Char → List (List Char)
  | [] => [[]]
  | c :: cs => (c :: cs) :: leftOvers cs

/-- Whether some characters match the pieces of a pattern. -/
def matchPieces : List LikePiece → List Char → Bool
  | [], cs => cs.isEmpty
  | .any :: pieces, cs => (leftOvers cs).any (matchPieces pieces)
  | .one :: _, [] => false
  | .one :: pieces, _ :: cs => matchPieces pieces cs
  | .char _ :: _, [] => false
  | .char c :: pieces, d :: cs => sameLetter c d && matchPieces pieces cs

/-- The characters of a text in front of the first NUL. -/
def visibleChars (text : String) : List Char :=
  text.toList.takeWhile (· != '\x00')

/-- Whether a text matches a pattern. What follows a NUL does not count. -/
def like (pattern text : String) : Bool :=
  match likePieces (visibleChars pattern) with
  | some pieces => matchPieces pieces (visibleChars text)
  | none => false

end CodeAtlas.Store
