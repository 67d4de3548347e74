import CodeAtlas.Store.Tables

/-!
# Statements

A database works statement by statement. A statement starts a transaction, ends one, or changes tables. A change fails
as a whole: then it leaves the tables as they were. How many variables a statement may have is an option of the build of
a database, and builds differ in it. So the number is a parameter of all that works on a database.

## Main definitions

* `Change`: the changes of tables, one statement each.
* `Change.apply`: the tables after a change.
* `Statement`: statements.
* `Limits`: what a build of a database limits.
* `replacing`, `deleting`: the changes that put the nodes of a graph in place of all nodes, and that delete files.
-/

namespace CodeAtlas.Store

/-- A table that can be emptied. -/
inductive Table where
  /-- The nodes. -/
  | nodes
  /-- The relations. -/
  | relations
  /-- The terms of the nodes. -/
  | terms
  /-- How rare each term is. -/
  | rarity
  deriving DecidableEq, Repr

/-- A change of tables. -/
inductive Change where
  /-- All rows of a table are deleted. -/
  | clear (table : Table)
  /-- A node is inserted. -/
  | insertNode (n : Node)
  /-- The nodes of some files are deleted, and the nodes that have such a path as identifier. -/
  | deleteNodes (paths : List String)
  /-- The digests of some files are deleted. -/
  | deleteDigests (paths : List String)

variable {R : Type}

/-- The tables with one of them emptied. -/
def Tables.clear (t : Tables R) : Table → Tables R
  | .nodes => { t with nodes := [] }
  | .relations => { t with relations := [] }
  | .terms => { t with terms := [] }
  | .rarity => { t with rarity := [] }

namespace Change

/-- How many variables a change has. -/
def variableCount : Change → Nat
  | .clear _ => 0
  | .insertNode _ => 12
  | .deleteNodes paths => 2 * paths.length
  | .deleteDigests paths => paths.length

/-- The tables after a change. A node that is inserted has to have a row, and an identifier that no row has. A missing
identifier is not equal to any. -/
def apply (t : Tables R) : Change → Except Failure (Tables R)
  | .clear table => .ok (t.clear table)
  | .insertNode n =>
    match NodeRow.ofNode? n with
    | .error f => .error f
    | .ok row =>
      if row.id.isSome && t.nodes.any (·.id == row.id) then .error .duplicateId
      else .ok { t with nodes := t.nodes ++ [row] }
  | .deleteNodes paths => .ok { t with nodes := (t.dropFiles paths).nodes }
  | .deleteDigests paths => .ok { t with files := (t.dropFiles paths).files }

end Change

/-- A statement. -/
inductive Statement where
  /-- A transaction is started. -/
  | start
  /-- The transaction ends, and its changes are kept. -/
  | commit
  /-- The transaction ends, and its changes are dropped. -/
  | rollback
  /-- Tables are changed. -/
  | change (e : Change)

/-- What a build of a database limits. -/
structure Limits where
  /-- How many variables a statement may have. -/
  maxVariables : Nat
  /-- A row of a node can be inserted. No statement of a fixed form has more variables. -/
  insertion_le : 12 ≤ maxVariables := by decide

/-- The limits of a build without options. -/
def Limits.standard : Limits where
  maxVariables := 32766
  insertion_le := Nat.le_of_ble_eq_true rfl

/-- The changes that put the nodes of a graph in place of all nodes. The relations and the search index go with the old
nodes. -/
def replacing (g : Graph) : List Change :=
  [.clear .nodes, .clear .relations, .clear .terms, .clear .rarity] ++ g.nodes.map fun entry => .insertNode entry.2

/-- The changes that delete some files with their nodes. -/
def deleting (paths : List String) : List Change :=
  [.deleteNodes paths, .deleteDigests paths]

end CodeAtlas.Store
