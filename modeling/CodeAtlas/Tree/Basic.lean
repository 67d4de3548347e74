/-!
# Syntax trees

A node of a syntax tree has a kind, the text that it covers, the rows where it starts and ends, and its children.
An empty text counts as missing.

## Main definitions

* `Tree`: syntax trees.
* `Tree.child?`: the first child of a kind.
* `Tree.childText?`: the text of the first child of a kind.
* `Tree.childTexts`: the texts of all children of some kinds.
* `Tree.collect`: what a rule finds at the nodes of a tree.
-/

namespace CodeAtlas

/-- A syntax tree. -/
inductive Tree where
  /-- A node: its kind, its text, the rows of its start and its end, and its children. -/
  | node (kind text : String) (firstRow lastRow : Nat) (children : List Tree)

namespace Tree

/-- The kind of the top node. -/
def kind : Tree → String
  | node kind _ _ _ _ => kind

/-- The text of a tree. -/
def text : Tree → String
  | node _ text _ _ _ => text

/-- The row where a tree starts, counted from zero. -/
def firstRow : Tree → Nat
  | node _ _ firstRow _ _ => firstRow

/-- The row where a tree ends, counted from zero. -/
def lastRow : Tree → Nat
  | node _ _ _ lastRow _ => lastRow

/-- The children of the top node. -/
def children : Tree → List Tree
  | node _ _ _ _ children => children

@[simp] theorem kind_node (k t a b cs) : (node k t a b cs).kind = k := rfl

@[simp] theorem text_node (k t a b cs) : (node k t a b cs).text = t := rfl

@[simp] theorem firstRow_node (k t a b cs) : (node k t a b cs).firstRow = a := rfl

@[simp] theorem lastRow_node (k t a b cs) : (node k t a b cs).lastRow = b := rfl

@[simp] theorem children_node (k t a b cs) : (node k t a b cs).children = cs := rfl

/-- The text of a tree, unless it is empty. -/
def text? (t : Tree) : Option String :=
  if t.text.isEmpty then none else some t.text

/-- The first child of a kind. -/
def child? (kind : String) (t : Tree) : Option Tree :=
  t.children.find? (·.kind == kind)

/-- Whether some child has a kind. -/
def hasChild (kind : String) (t : Tree) : Bool :=
  t.children.any (·.kind == kind)

/-- The text of the first child of a kind, unless there is no such child or its text is empty. -/
def childText? (kind : String) (t : Tree) : Option String :=
  (t.child? kind).bind text?

/-- The text of the first child of a kind, or a text that stands in for it. -/
def childTextD (kind fallback : String) (t : Tree) : String :=
  (t.childText? kind).getD fallback

/-- The texts of all children of some kinds, without empty ones. -/
def childTexts (kinds : List String) (t : Tree) : List String :=
  (t.children.filter fun c => kinds.contains c.kind).filterMap text?

/-- The first text of a child of one of some kinds. -/
def firstText? (kinds : List String) (t : Tree) : Option String :=
  (t.childTexts kinds).head?

mutual

/-- What a rule finds at the nodes of a tree, from the top down and from left to right. The rule sees a node and
the kind of the node above it. -/
def collect {α : Type} (rule : Option String → Tree → List α) (above : Option String) : Tree → List α
  | node kind text firstRow lastRow children =>
    rule above (node kind text firstRow lastRow children) ++ collectList rule (some kind) children

/-- What a rule finds at the nodes of some trees. -/
def collectList {α : Type} (rule : Option String → Tree → List α) (above : Option String) :
    List Tree → List α
  | [] => []
  | t :: ts => collect rule above t ++ collectList rule above ts

end

end Tree

end CodeAtlas
