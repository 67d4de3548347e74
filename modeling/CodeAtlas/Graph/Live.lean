import CodeAtlas.Graph.Edit

/-!
# Views that stay current

A node that was shown keeps showing its children as they are, as long as edits reach it. So every node gets a number
when it is put, and the children of all nodes that ever were are kept by number.

## Main definitions

* `Live`: a graph with numbered nodes.
* `Live.apply`: an edit of such a graph.
* `Live.children`: the children of the node with a number.
-/

namespace CodeAtlas

/-- A graph whose nodes are numbered in the order in which they were put. -/
structure Live where
  /-- The graph. -/
  graph : Graph := {}
  /-- The numbers of the nodes that are in the graph. -/
  numbers : List (NodeId × Nat) := []
  /-- The children of every node that ever was. -/
  lists : Array (List NodeId) := #[]

namespace Live

/-- The number of the node under a key. -/
def number? (l : Live) (key : NodeId) : Option Nat :=
  l.numbers.lookup key

/-- The children of the node with a number. -/
def children (l : Live) (number : Nat) : List NodeId :=
  l.lists.getD number []

/-- The kept children of a node brought up to date with the graph. -/
def refresh (l : Live) (key : NodeId) : Live :=
  match l.number? key, l.graph.find? key with
  | some number, some n => { l with lists := l.lists.setIfInBounds number n.children }
  | _, _ => l

/-- The graph after an edit, with the numbers kept. -/
def apply (l : Live) (e : Edit) : Live :=
  let graph := l.graph.apply e
  match e with
  | .put key n =>
    { graph, numbers := (key, l.lists.size) :: l.numbers.filter (·.1 != key), lists := l.lists.push n.children }
  | .attach parent _ => refresh { l with graph } parent
  | .detach parent _ => refresh { l with graph } parent
  | .erase key => { l with graph, numbers := l.numbers.filter (·.1 != key) }

/-- An empty graph in place of the present one. Nodes that were shown stay as they are. -/
def restart (l : Live) : Live :=
  { lists := l.lists }

/-- The graph after some edits. -/
def applyAll (l : Live) (edits : List Edit) : Live :=
  edits.foldl apply l

end Live

end CodeAtlas
