import CodeAtlas.Failure
import CodeAtlas.Graph.Basic

/-!
# Edits of a graph

Every change of a graph is a sequence of small edits. An operation gives its edits and, if it stops early, the
failure that stopped it; the edits before it have been made all the same.

## Main definitions

* `Edit`, `Graph.apply`: edits and what they do.
* `Edits`: a sequence of edits that may end in a failure.
-/

namespace CodeAtlas

/-- A small change of a graph. -/
inductive Edit where
  /-- A node is put under a key. -/
  | put (key : NodeId) (node : Node)
  /-- A child is added at the end of the children of a node, if that node is there. -/
  | attach (parent child : NodeId)
  /-- The first mention of a child is taken from the children of a node, if that node is there. -/
  | detach (parent child : NodeId)
  /-- A key is removed with its node. -/
  | erase (key : NodeId)

/-- The graph after an edit. -/
def Graph.apply (g : Graph) : Edit → Graph
  | .put key n => g.put key n
  | .attach parent child => g.modifyChildren parent (· ++ [child])
  | .detach parent child => g.modifyChildren parent (·.erase child)
  | .erase key => g.erase key

/-- The graph after some edits. -/
def Graph.applyAll (g : Graph) (edits : List Edit) : Graph :=
  edits.foldl Graph.apply g

/-- Edits, and the failure that ended them early. -/
structure Edits where
  /-- The edits in order. -/
  list : List Edit
  /-- The failure. -/
  failure : Option Failure := none

namespace Edits

/-- No edits. -/
def none : Edits := ⟨[], .none⟩

/-- Some edits that all succeed. -/
def ofList (list : List Edit) : Edits := ⟨list, .none⟩

/-- Edits followed by others, unless they failed. -/
def andThen (a : Edits) (b : Unit → Edits) : Edits :=
  match a.failure with
  | some _ => a
  | .none =>
    let rest := b ()
    ⟨a.list ++ rest.list, rest.failure⟩

end Edits

end CodeAtlas
