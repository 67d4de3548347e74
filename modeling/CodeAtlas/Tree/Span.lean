import CodeAtlas.Tree.Basic

/-!
# Spans in a source text

A tree over a text gives for each node the bytes that it covers, as offsets in the UTF-8 form of the text. Resolving
such a tree against the text gives every node its text and its rows.

## Main definitions

* `SpanTree`: trees over byte offsets.
* `slice`: the characters between two byte offsets.
* `rowAt`: the row of a byte offset.
* `SpanTree.resolve`: the syntax tree of a text.
-/

namespace CodeAtlas

/-- A tree whose nodes cover bytes of a text. -/
inductive SpanTree where
  /-- A node: its kind, the offset of its first byte, the offset after its last byte, and its children. -/
  | node (kind : String) (start stop : Nat) (children : List SpanTree)

/-- The characters that lie between two byte offsets, in some characters that start at byte `offset`. -/
def sliceFrom (offset start stop : Nat) : List Char → List Char
  | [] => []
  | c :: cs =>
    let next := offset + c.utf8Size
    if stop < next then []
    else if start ≤ offset then c :: sliceFrom next start stop cs
    else sliceFrom next start stop cs

/-- The characters between two byte offsets. -/
def slice (start stop : Nat) (cs : List Char) : List Char :=
  sliceFrom 0 start stop cs

/-- The number of newlines before byte `position`, in some characters that start at byte `offset`. -/
def rowFrom (offset position : Nat) : List Char → Nat
  | [] => 0
  | c :: cs =>
    if position ≤ offset then 0
    else (if c = '\n' then 1 else 0) + rowFrom (offset + c.utf8Size) position cs

/-- The row of a byte offset, counted from zero. -/
def rowAt (position : Nat) (cs : List Char) : Nat :=
  rowFrom 0 position cs

namespace SpanTree

/-- The tree of a text about which nothing is known. -/
def bare (text : String) : SpanTree :=
  .node "root" 0 text.utf8ByteSize []

mutual

/-- The syntax tree of a text. -/
def resolve (cs : List Char) : SpanTree → Tree
  | node kind start stop children =>
    .node kind (String.ofList (slice start stop cs)) (rowAt start cs) (rowAt stop cs) (resolveList cs children)

/-- The syntax trees of some trees over a text. -/
def resolveList (cs : List Char) : List SpanTree → List Tree
  | [] => []
  | t :: ts => resolve cs t :: resolveList cs ts

end

end SpanTree

end CodeAtlas
