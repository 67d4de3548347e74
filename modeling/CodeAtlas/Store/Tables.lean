import CodeAtlas.Graph.Basic
import CodeAtlas.Store.Like
import CodeAtlas.Store.Row

/-!
# Tables

The database has a table of nodes, a table of relations, a table of files with their digests, and the two tables of
the search index. Rows stand in the order in which they were inserted. A table of numbers is generic in the type of
the numbers.

## Main definitions

* `Tables`: the tables.
* `Tables.node?`, `Tables.children`, `Tables.graph`: nodes read back.
* `Tables.stats`, `Tables.statsOfAll`: how many nodes of each kind there are below one node, or below several.
* `Tables.callers`, `Tables.subclasses`: which nodes mention a name.
* `Tables.withNodes`, `Tables.putDigest`, `Tables.dropFiles`: changes.
-/

namespace CodeAtlas.Store

/-- How often a term occurs in the text of a node, relative to the most frequent term of that text. -/
structure TermRow (R : Type) where
  /-- The identifier of the node. -/
  node : NodeId
  /-- The term. -/
  term : String
  /-- The relative frequency. -/
  weight : R

/-- A relation between two nodes. -/
structure Relation where
  /-- The identifier of the first node. -/
  source : NodeId
  /-- The identifier of the second node. -/
  target : NodeId
  /-- What relates them. -/
  label : Option String
  deriving DecidableEq, Repr

/-- The tables of a database. -/
structure Tables (R : Type) where
  /-- The nodes. -/
  nodes : List NodeRow := []
  /-- The relations. -/
  relations : List Relation := []
  /-- The paths of the files with their digests. -/
  files : List (String × String) := []
  /-- The terms of the nodes. -/
  terms : List (TermRow R) := []
  /-- How rare each term is. -/
  rarity : List (String × R) := []

namespace Tables

variable {R : Type}

/-- A table of pairs with a key put at its end, and nowhere else. -/
def putLast {V : Type} (key : String) (value : V) (table : List (String × V)) : List (String × V) :=
  table.filter (·.1 != key) ++ [(key, value)]

/-! ## Reading nodes -/

/-- The row with an identifier. A missing identifier is not equal to any. -/
def row? (t : Tables R) : NodeId → Option NodeRow
  | some id => t.nodes.find? (·.id == some id)
  | none => none

/-- The rows below an identifier. -/
def below (t : Tables R) : NodeId → List NodeRow
  | some id => t.nodes.filter (·.parent == some id)
  | none => []

/-- The node with an identifier. -/
def node? (t : Tables R) (id : NodeId) : Option Node :=
  (t.row? id).map fun r => r.toNode ((t.below id).map (·.id))

/-- The identifiers of the nodes below a row, as they come back from one column: an identifier that holds a comma
comes back in pieces. -/
def joinedChildren (t : Tables R) (r : NodeRow) : List NodeId :=
  (splitNames (joinNames ((t.below r.id).filterMap (·.id)))).map some

/-- A missing identifier stands in front of all others. -/
def idBefore : NodeId → NodeId → Bool
  | none, _ => true
  | some _, none => false
  | some a, some b => a ≤ b

/-- The rows without those whose identifier has been met before. -/
def firstOfEach (rows : List NodeRow) : List NodeRow :=
  rows.eraseDupsBy fun a b => a.id == b.id

/-- The nodes below an identifier, in the order of their identifiers. Nodes without identifier count as one. -/
def children (t : Tables R) (id : NodeId) : List Node :=
  let rows := (firstOfEach (t.below id)).mergeSort fun a b => idBefore a.id b.id
  rows.map fun r => r.toNode (t.joinedChildren r)

/-- The graph of all nodes. A node hangs below its parent if the parent is there. -/
def graph (t : Tables R) : Graph :=
  let bare := t.nodes.foldl (fun g r => g.put r.id (r.toNode [])) Graph.empty
  ⟨bare.nodes.map fun (key, n) =>
    (key, { n with children := (bare.nodes.filter fun (_, m) => m.parent?.isSome && m.parent? == key).map (·.2.id) })⟩

/-! ## Statistics -/

/-- Some rows and all rows below them, at most `depth` levels down, level by level. -/
def closure (t : Tables R) : Nat → List NodeRow → List NodeRow
  | 0, _ => []
  | depth + 1, rows => if rows.isEmpty then [] else rows ++ t.closure depth (rows.flatMap fun r => t.below r.id)

/-- The number of rows of a kind. -/
def countKind (kind : String) (rows : List NodeRow) : Int :=
  rows.countP (·.kind == kind)

/-- How many rows of each kind there are. -/
def countRows (rows : List NodeRow) : Stats where
  files := countKind "file" rows
  classes := countKind "class" rows
  functions := countKind "function" rows
  methods := countKind "method" rows

/-- How many nodes of each kind there are: the node with an identifier and all nodes below it. No chain of different
nodes is longer than the table. -/
def stats (t : Tables R) (id : NodeId) : Stats :=
  countRows (t.closure (t.nodes.length + 1) (t.row? id).toList)

/-- Some rows and all rows below them, each with a label that it passes down, level by level. -/
def labelledClosure (t : Tables R) : Nat → List (NodeId × NodeRow) → List (NodeId × NodeRow)
  | 0, _ => []
  | depth + 1, rows =>
    if rows.isEmpty then []
    else rows ++ t.labelledClosure depth (rows.flatMap fun (label, r) => (t.below r.id).map fun s => (label, s))

/-- How many nodes of each kind there are at and below each of several identifiers, in the order of first mention.
All of them are found in one descent. -/
def statsOfAll (t : Tables R) (ids : List NodeId) : List (NodeId × Stats) :=
  let starts := t.nodes.filter fun r => r.id.isSome && ids.contains r.id
  let found := t.labelledClosure (t.nodes.length + 1) (starts.map fun r => (r.id, r))
  ids.eraseDups.map fun id => (id, countRows ((found.filter (·.1 == id)).map (·.2)))

/-! ## Queries -/

/-- Whether a column of names mentions a name: it is the whole column, or it stands at its start, in its middle or
at its end, between commas. Between commas, ASCII letters match in either case. -/
def mentions (name : String) : Option String → Bool
  | none => false
  | some column =>
    let pattern := escapeLike name
    like (pattern ++ ",%") column || like ("%," ++ pattern ++ ",%") column || like ("%," ++ pattern) column ||
      column == name

/-- The identifiers of the nodes that call a name. -/
def callers (t : Tables R) (name : String) : List NodeId :=
  (t.nodes.filter fun r => mentions name r.calls).map (·.id)

/-- The classes that extend a name. -/
def subclasses (t : Tables R) (name : String) : List Node :=
  (t.nodes.filter fun r => r.kind == "class" && mentions name r.bases).map (·.toNode [])

/-- The rows that are searched, kind by kind. -/
def searchable (t : Tables R) : List NodeRow :=
  Node.searchableKinds.flatMap fun kind => t.nodes.filter (·.kind == kind)

/-- The digest of a file. -/
def digest? (t : Tables R) (path : String) : Option String :=
  t.files.lookup path

/-! ## Changes -/

/-- The tables with other nodes. The relations and the search index go with the old nodes. -/
def withNodes (t : Tables R) (rows : List NodeRow) : Tables R :=
  { t with nodes := rows, relations := [], terms := [], rarity := [] }

/-- The tables with the digest of a file. -/
def putDigest (t : Tables R) (path digest : String) : Tables R :=
  { t with files := putLast path digest t.files }

/-- The tables without some files: their nodes, the nodes that have such a path as identifier, and their digests. -/
def dropFiles (t : Tables R) (paths : List String) : Tables R :=
  let among : Option String → Bool
    | some path => paths.contains path
    | none => false
  { t with
    nodes := t.nodes.filter fun r => !(among r.filePath || among r.id)
    files := t.files.filter fun (path, _) => !paths.contains path }

/-- The tables without the terms of some nodes. -/
def dropTerms (t : Tables R) (ids : List NodeId) : Tables R :=
  { t with terms := t.terms.filter fun r => !(r.node.isSome && ids.contains r.node) }

/-- The tables with the rarity of a term. -/
def putRarity (t : Tables R) (term : String) (value : R) : Tables R :=
  { t with rarity := putLast term value t.rarity }

end Tables

end CodeAtlas.Store
