import CodeAtlas.Graph.Node

/-!
# The map as a graph

A graph holds nodes under keys, in the order in which the keys were first put. A node is usually kept under its own
identifier. The nodes below a node are listed in it.

## Main definitions

* `Graph`: graphs.
* `Graph.put`, `Graph.erase`, `Graph.modify`: changes.
* `Graph.childrenOf`: the nodes below a node.
* `Graph.stats`: how many nodes of each kind there are below a node.
-/

namespace CodeAtlas

/-- Nodes under keys, in the order in which the keys were first put. -/
structure Graph where
  /-- The keys with their nodes. -/
  nodes : List (NodeId × Node) := []
  deriving Inhabited

namespace Graph

/-- The graph without nodes. -/
def empty : Graph := {}

/-- The keys in order. -/
def keys (g : Graph) : List NodeId :=
  g.nodes.map Prod.fst

/-- The node under a key. -/
def find? (g : Graph) (key : NodeId) : Option Node :=
  g.nodes.lookup key

/-- Whether a key has a node. -/
def contains (g : Graph) (key : NodeId) : Bool :=
  (g.find? key).isSome

/-- The nodes with one put in place of the one under its key, or at the end. -/
def putNode (key : NodeId) (n : Node) : List (NodeId × Node) → List (NodeId × Node)
  | [] => [(key, n)]
  | (k, m) :: rest => if k = key then (key, n) :: rest else (k, m) :: putNode key n rest

/-- The graph with a node put under a key. A key that was there keeps its place. -/
def put (g : Graph) (key : NodeId) (n : Node) : Graph :=
  ⟨putNode key n g.nodes⟩

/-- The graph without a key. -/
def erase (g : Graph) (key : NodeId) : Graph :=
  ⟨g.nodes.filter (·.1 != key)⟩

/-- The graph with a change to the node under a key, if there is one. -/
def modify (g : Graph) (key : NodeId) (f : Node → Node) : Graph :=
  ⟨g.nodes.map fun (k, n) => if k = key then (k, f n) else (k, n)⟩

/-- The graph with the children of a node changed. -/
def modifyChildren (g : Graph) (key : NodeId) (f : List NodeId → List NodeId) : Graph :=
  g.modify key fun n => { n with children := f n.children }

/-- The nodes below a node, without those that are missing. -/
def childrenOf (g : Graph) (key : NodeId) : List Node :=
  match g.find? key with
  | some n => n.children.filterMap g.find?
  | none => []

/-- The key of the root. -/
def rootKey : NodeId := some "."

/-- The root. -/
def root? (g : Graph) : Option Node :=
  g.find? rootKey

/-- The numbers of a node and of all nodes below it, at most `depth` levels down. -/
def statsTo (g : Graph) : Nat → NodeId → Stats
  | 0, _ => .zero
  | depth + 1, key =>
    match g.find? key with
    | some n => Stats.ofKind n.kind + Stats.sum (n.children.map (g.statsTo depth))
    | none => .zero

/-- The numbers of a node and of all nodes below it. No chain of different nodes is longer than the graph. -/
def stats (g : Graph) (key : NodeId) : Stats :=
  g.statsTo (g.nodes.length + 1) key

end Graph

end CodeAtlas
