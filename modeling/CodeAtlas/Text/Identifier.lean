import CodeAtlas.Text.Ranges
import CodeAtlas.Text.Table.IdentifierStart
import CodeAtlas.Text.Table.IdentifierContinue

/-!
# Identifiers

Which characters can start and continue an identifier in source text.

## Main definitions

* `isIdentifierStart`, `isIdentifierContinue`: the two classes.
* `isIdentifier`: a text made of one character that can start an identifier and any number that can continue it.
-/

namespace CodeAtlas.Text

/-- A letter, the underscore, or a character beyond ASCII that can start an identifier. -/
def isIdentifierStart (c : Char) : Bool :=
  if c.toNat < 128 then c.isAlpha || c == '_' else inRanges Table.identifierStart c.toNat

/-- A letter, digit, underscore, or a character beyond ASCII that can stand inside an identifier. -/
def isIdentifierContinue (c : Char) : Bool :=
  if c.toNat < 128 then c.isAlphanum || c == '_' else inRanges Table.identifierContinue c.toNat

/-- Whether the characters form an identifier. -/
def isIdentifier : List Char → Bool
  | [] => false
  | c :: cs => isIdentifierStart c && cs.all isIdentifierContinue

end CodeAtlas.Text
