import CodeAtlas.Tree.Basic

/-!
# Shapes of made-up syntax trees

A made-up syntax tree repeats a group of declarations. The text of the file decides how often: once for every two
newlines, and at least once. The declarations of a repetition share their rows; all other nodes stand in the first
two rows.

## Main definitions

* `word`, `part`, `spelled`: nodes that are not declarations.
* `Shape`: the declarations of a repetition.
* `Shape.build`: the tree for a text.
-/

namespace CodeAtlas.Workload

/-- A node with a text and nothing below it. -/
def word (kind text : String) : Tree :=
  .node kind text 0 1 []

/-- A node with other nodes below it. -/
def part (kind : String) (children : List Tree) : Tree :=
  .node kind "" 0 1 children

/-- A node with a text and other nodes below it. -/
def spelled (kind text : String) (children : List Tree) : Tree :=
  .node kind text 0 1 children

/-- The place of a repetition: its number, and how many rows each repetition takes. -/
structure Place where
  /-- The number of the repetition. -/
  number : Nat
  /-- The number of rows of a repetition. -/
  rows : Nat

namespace Place

/-- A declaration with a text of its own. -/
def spelledItem (p : Place) (kind text : String) (children : List Tree) : Tree :=
  .node kind text (p.number * p.rows) (p.number * p.rows + (p.rows - 1)) children

/-- A declaration. -/
def item (p : Place) (kind : String) (children : List Tree) : Tree :=
  p.spelledItem kind "" children

/-- A name with the number of the repetition. -/
def name (p : Place) (text : String) : String :=
  text ++ toString p.number

end Place

/-- A way to make up syntax trees. -/
structure Shape where
  /-- The kind of the root. -/
  root : String
  /-- The number of rows of a repetition. -/
  rows : Nat
  /-- The nodes of a repetition. -/
  items : Place → List Tree

/-- How often the declarations are repeated. -/
def repetitions (text : String) : Nat :=
  max 1 (text.toList.count '\n' / 2)

/-- The tree for a text. -/
def Shape.build (s : Shape) (text : String) : Tree :=
  .node s.root text 0 0 ((List.range (repetitions text)).flatMap fun i => s.items ⟨i, s.rows⟩)

/-- The tree without any declarations. -/
def emptyTree : Tree :=
  .node "module" "" 0 0 []

end CodeAtlas.Workload
