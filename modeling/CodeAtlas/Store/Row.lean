import CodeAtlas.Failure
import CodeAtlas.Graph.Node
import CodeAtlas.Text.Cut

/-!
# Rows of nodes

A node is kept as a row of columns. A list of names is one column, the names joined by commas, and an empty list is
an absent column. So a name that holds a comma comes back in several pieces, and the list of one empty name comes
back empty. The children of a node are not in its row.

## Main definitions

* `joinNames`, `splitNames`: the column of a list of names, and back.
* `NodeRow`: rows.
* `NodeRow.ofNode?`: the row of a node, if it may be stored.
* `NodeRow.toNode`: the node of a row.
-/

namespace CodeAtlas.Store

/-- The column of a list of names. -/
def joinNames (names : List String) : Option String :=
  if names.isEmpty then none else some (Text.joinWith "," names)

/-- The names of a column. -/
def splitNames : Option String → List String
  | some column => if column.isEmpty then [] else Text.cutAt ',' column
  | none => []

/-- A row of the table of nodes. -/
structure NodeRow where
  /-- The identifier. -/
  id : NodeId
  /-- The identifier of the node above. -/
  parent : NodeId
  /-- The name. -/
  name : String
  /-- The kind. -/
  kind : String
  /-- The path of the file. -/
  filePath : Option String
  /-- The first line. -/
  firstLine : Option Int
  /-- The last line. -/
  lastLine : Option Int
  /-- The signature. -/
  signature : Option String
  /-- The documentation. -/
  docstring : Option String
  /-- The column of the names it calls. -/
  calls : Option String
  /-- The column of the names it extends or implements. -/
  bases : Option String
  /-- The language. -/
  language : Option String
  deriving DecidableEq, Repr, Inhabited

/-- Whether a whole number fits a column: 64 bits with a sign. -/
def fits64 (n : Int) : Bool :=
  -0x8000000000000000 ≤ n && n ≤ 0x7fffffffffffffff

/-- Whether a line number may be stored. -/
def storableLine : Option Int → Bool
  | some n => fits64 n
  | none => true

namespace NodeRow

/-- The row of a node. Its line numbers have to fit, and it needs a name and a kind. Texts are sequences of Unicode
scalar values, so all of them can be encoded. Outside of this model there are texts with surrogates, such as the name of
a file that is not valid UTF-8; the driver of the database refuses a node with one of them. -/
def ofNode? (n : Node) : Except Failure NodeRow :=
  if storableLine n.firstLine && storableLine n.lastLine then
    match n.name, n.kind with
    | some name, some kind =>
      .ok { id := n.id, parent := n.parent, name, kind, filePath := n.filePath, firstLine := n.firstLine,
            lastLine := n.lastLine, signature := n.signature, docstring := n.docstring, calls := joinNames n.calls,
            bases := joinNames n.bases, language := n.language }
    | none, _ => .error .missingName
    | some _, none => .error .missingKind
  else .error .integerRange

/-- The node of a row, with the children that are given. -/
def toNode (r : NodeRow) (children : List NodeId) : Node where
  id := r.id
  name := some r.name
  kind := some r.kind
  parent := r.parent
  filePath := r.filePath
  firstLine := r.firstLine
  lastLine := r.lastLine
  signature := r.signature
  docstring := r.docstring
  children := children
  calls := splitNames r.calls
  bases := splitNames r.bases
  language := r.language

/-- Whether a row is of a node that is searched. -/
def isSearchable (r : NodeRow) : Bool :=
  Node.searchableKinds.contains r.kind

end NodeRow

end CodeAtlas.Store
