import CodeAtlas.Text.Ranges
import CodeAtlas.Text.Table.Unprintable

/-!
# Printable code points

Quoted text shows a character as itself if it is printable, and as an escape otherwise.

## Main definitions

* `isPrintable`: the printable code points. Of the separators, only the space is printable.
-/

namespace CodeAtlas.Text

/-- Whether a code point is printable. -/
def isPrintable (n : Nat) : Bool :=
  if n < 128 then 32 ≤ n && n < 127 else !inRanges Table.unprintable n

end CodeAtlas.Text
