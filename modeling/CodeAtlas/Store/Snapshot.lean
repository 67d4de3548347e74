import CodeAtlas.Json.Value
import CodeAtlas.Store.Tables

/-!
# Snapshots of tables

The tables of a database as a JSON value, and back. A double is written as the whole number of its bits, so that it
comes back as it was.

## Main definitions

* `Tables.toJson`: the value of some tables.
* `Tables.ofJson?`: the tables of a value.
-/

namespace CodeAtlas.Store

/-- The value of a double. -/
def bitsJson (x : Float) : Json :=
  .ofNat x.toBits.toNat

/-- The double of a value. -/
def bitsOf? : Json → Option Float
  | .int n => some (Float.ofBits (UInt64.ofNat n.toNat))
  | _ => none

/-- The value of a row. -/
def NodeRow.toJson (r : NodeRow) : Json :=
  .arr [.ofText? r.id, .ofText? r.parent, .str r.name, .str r.kind, .ofText? r.filePath, .ofInt? r.firstLine,
    .ofInt? r.lastLine, .ofText? r.signature, .ofText? r.docstring, .ofText? r.calls, .ofText? r.bases,
    .ofText? r.language]

/-- The row of a value. -/
def NodeRow.ofJson? : Json → Option NodeRow
  | .arr [id, parent, .str name, .str kind, filePath, firstLine, lastLine, signature, docstring, calls, bases,
      language] =>
    some { id := id.text?, parent := parent.text?, name, kind, filePath := filePath.text?
           firstLine := firstLine.int?, lastLine := lastLine.int?, signature := signature.text?
           docstring := docstring.text?, calls := calls.text?, bases := bases.text?, language := language.text? }
  | _ => none

/-- The value of the row of a term. -/
def TermRow.toJson (r : TermRow Float) : Json :=
  .arr [.ofText? r.node, .str r.term, bitsJson r.weight]

/-- The row of a term of a value. -/
def TermRow.ofJson? : Json → Option (TermRow Float)
  | .arr [node, .str term, weight] => (bitsOf? weight).map fun x => { node := node.text?, term, weight := x }
  | _ => none

/-- The value of a relation. -/
def Relation.toJson (r : Relation) : Json :=
  .arr [.ofText? r.source, .ofText? r.target, .ofText? r.label]

/-- The relation of a value. -/
def Relation.ofJson? : Json → Option Relation
  | .arr [source, target, label] => some ⟨source.text?, target.text?, label.text?⟩
  | _ => none

/-- The pair of a value whose second part is read by `read`. -/
def pairOf? {V : Type} (read : Json → Option V) : Json → Option (String × V)
  | .arr [.str key, value] => (read value).map fun v => (key, v)
  | _ => none

namespace Tables

/-- The value of some tables. -/
def toJson (t : Tables Float) : Json :=
  .obj [("nodes", .arr (t.nodes.map NodeRow.toJson)), ("relations", .arr (t.relations.map Relation.toJson)),
    ("files", .arr (t.files.map fun (path, digest) => .ofTexts [path, digest])),
    ("terms", .arr (t.terms.map TermRow.toJson)),
    ("rarity", .arr (t.rarity.map fun (term, x) => .arr [.str term, bitsJson x]))]

/-- The rows of a field, each of them read by `read`. -/
def rowsOf? {V : Type} (key : String) (read : Json → Option V) (j : Json) : Option (List V) :=
  ((j.field? key).bind (·.items?)).bind fun items => items.mapM read

/-- The tables of a value. -/
def ofJson? (j : Json) : Option (Tables Float) :=
  match rowsOf? "nodes" NodeRow.ofJson? j, rowsOf? "relations" Relation.ofJson? j,
    rowsOf? "files" (pairOf? Json.text?) j, rowsOf? "terms" TermRow.ofJson? j, rowsOf? "rarity" (pairOf? bitsOf?) j with
  | some nodes, some relations, some files, some terms, some rarity =>
    some { nodes, relations, files, terms, rarity }
  | _, _, _, _, _ => none

end Tables

end CodeAtlas.Store
