import CodeAtlas.Text.Cut
import CodeAtlas.Text.Table.CharacterName

/-!
# Characters by name

## Main definitions

* `characterNamed`: the character with a given name, in letters of any case.
-/

namespace CodeAtlas.Text

/-- The character with a name: by its place in a row of names, or by one of its other names. -/
def characterNamed (name : List Char) : Option Nat :=
  let wanted := name.map Char.toUpper
  if wanted.isEmpty then none
  else
    let place (row : Nat × String) : Option Nat :=
      ((List.splitOn '|' row.2.toList).idxOf? wanted).map (row.1 + ·)
    let other (row : Nat × String) : Option Nat :=
      if (List.splitOn '|' row.2.toList).contains wanted then some row.1 else none
    Table.characterNames.findSome? place <|> Table.otherNames.findSome? other

end CodeAtlas.Text
