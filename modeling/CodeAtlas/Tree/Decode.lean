import CodeAtlas.Json.Value
import CodeAtlas.Tree.Span

/-!
# Trees in JSON

A tree over byte offsets is written as a list: the kind, the two offsets, and, if it has any, the list of its children.

## Main definitions

* `SpanTree.ofJson?`: the tree that a JSON value stands for.
-/

namespace CodeAtlas.SpanTree

mutual

/-- The tree that a JSON value stands for. -/
def ofJson? : Json → Option SpanTree
  | .arr (.str kind :: .int start :: .int stop :: rest) =>
    match rest with
    | .arr children :: _ => (ofJsons? children).map (.node kind start.toNat stop.toNat)
    | _ => some (.node kind start.toNat stop.toNat [])
  | _ => none

/-- The trees that some JSON values stand for. -/
def ofJsons? : List Json → Option (List SpanTree)
  | [] => some []
  | j :: js =>
    match ofJson? j, ofJsons? js with
    | some t, some ts => some (t :: ts)
    | _, _ => none

end

end CodeAtlas.SpanTree
