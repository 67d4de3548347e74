import CodeAtlas.Entity

/-!
# Outlines

The outline of a file holds its declarations and its number of lines.

## Main definitions

* `Outline`: the entities of a file and its number of lines.
* `Outline.unreadable`: the outline of a file that could not be read.
-/

namespace CodeAtlas

/-- The entities of a file and its number of lines, if the file could be read. -/
structure Outline where
  /-- The entities in the order of their declarations. -/
  entities : List Entity
  /-- The number of lines. -/
  lines : Option Nat

/-- The outline of a file that could not be read. -/
def Outline.unreadable : Outline := ⟨[], none⟩

end CodeAtlas
