import CodeAtlas.Decimal.Round
import CodeAtlas.Graph.Node
import CodeAtlas.Json.Printer

/-!
# Reports

Answers are JSON objects with a field that says which question was asked. Fields have a fixed order.

## Main definitions

* `Report.ofNode`: a node.
* `Report.map`, `Report.expand`, `Report.inspect`, `Report.search`, `Report.hierarchy`: the answers.
-/

namespace CodeAtlas.Report

/-- The fields of a node. -/
def nodeFields (n : Node) : List (String × Json) :=
  [("id", .ofText? n.id), ("name", .ofText? n.name), ("type", .ofText? n.kind), ("language", .ofText? n.language),
    ("parent_id", .ofText? n.parent), ("file_path", .ofText? n.filePath), ("line_start", .ofInt? n.firstLine),
    ("line_end", .ofInt? n.lastLine), ("signature", .ofText? n.signature), ("docstring", .ofText? n.docstring),
    ("children_ids", .arr (n.children.map .ofText?)), ("calls", .ofTexts n.calls), ("base_classes", .ofTexts n.bases)]

/-- A node. -/
def ofNode (n : Node) : Json :=
  .obj (nodeFields n)

/-- Numbers with their labels. Numbers that are not known are an empty object. -/
def ofTally (t : Tally) : Json :=
  .obj (t.map fun (label, number) => (label, .int number))

/-- The overview of a project: its numbers, and those of its directories. -/
def map (project root : Option String) (numbers : Tally) (children : List (NodeId × Tally)) : Json :=
  .obj [("command", .str "map"), ("project", .ofText? project), ("root", .ofText? root), ("stats", ofTally numbers),
    ("children", .arr (children.map fun (id, t) => .obj [("id", .ofText? id), ("stats", ofTally t)]))]

/-- A node with the nodes below it and their numbers. -/
def expand (n : Node) (children : List Node) (numbers : NodeId → Tally) : Json :=
  .obj [("command", .str "expand"), ("node", ofNode n),
    ("children", .arr (children.map fun c => .obj (nodeFields c ++ [("stats", ofTally (numbers c.id))])))]

/-- A node with what it calls and what calls it. -/
def inspect (n : Node) (calls : List String) (calledBy : List NodeId) : Json :=
  .obj [("command", .str "inspect"), ("node", ofNode n), ("calls", .ofTexts calls),
    ("called_by", .arr (calledBy.map .ofText?))]

/-- The nodes that were found, with their scores in four places. -/
def search (query : String) (results : List (Node × Float)) : Json :=
  .obj [("command", .str "search"), ("query", .str query), ("count", .ofNat results.length),
    ("results", .arr (results.map fun (n, score) =>
      .obj [("node", ofNode n), ("score", .real (Decimal.roundFloat 4 score))]))]

/-- The classes that extend a class. -/
def hierarchy (base : String) (subclasses : List Node) : Json :=
  .obj [("command", .str "hierarchy"), ("base_class", .str base), ("count", .ofNat subclasses.length),
    ("subclasses", .arr (subclasses.map ofNode))]

end CodeAtlas.Report
