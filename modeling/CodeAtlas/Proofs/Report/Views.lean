import Mathlib
import CodeAtlas.Report
import CodeAtlas.Proofs.Json.Printing

/-!
# What reports show

A report about nodes shows all that it was made of: each field of each node, the names that are called and the nodes
that call, and the numbers that belong to each node, in their order. Whoever reads its text finds all of this again, so
that the texts of two reports are equal only if they show the same.

## Main definitions

* `View`: what a report shows
* `Question`: what a report is made of
* `View.read?`: what the text of a report shows

## Main results

* `nodeOf?_ofNode`, `tallyOf?_ofTally`: nodes and numbers are read as they were
* `View.ofJson?_report`: so is what a report shows
* `View.keyed_report`: the keys in a report are distinct, those of the numbers apart
* `Question.view_kept`: the text of a report is a JSON text in ASCII that says what the report shows and nothing else
-/

namespace CodeAtlas

namespace Report

/-- What a report shows. -/
inductive View where
  /-- The numbers of a project and of its directories. -/
  | map (project root : Option String) (numbers : Tally) (children : List (NodeId × Tally))
  /-- A node, and the nodes below it with their numbers. -/
  | expand (n : Node) (children : List (Node × Tally))
  /-- A node, with what it calls and what calls it. -/
  | inspect (n : Node) (calls : List String) (calledBy : List NodeId)
  /-- The classes that extend a class. -/
  | hierarchy (base : String) (subclasses : List Node)

/-- What a report is made of. -/
inductive Question where
  /-- The overview of a project. -/
  | map (project root : Option String) (numbers : Tally) (children : List (NodeId × Tally))
  /-- A node with the nodes below it. -/
  | expand (n : Node) (children : List Node) (numbers : NodeId → Tally)
  /-- A node with its calls. -/
  | inspect (n : Node) (calls : List String) (calledBy : List NodeId)
  /-- A class with those that extend it. -/
  | hierarchy (base : String) (subclasses : List Node)

namespace Question

/-- The report. -/
def report : Question → Json
  | .map project root numbers children => Report.map project root numbers children
  | .expand n children numbers => Report.expand n children numbers
  | .inspect n calls calledBy => Report.inspect n calls calledBy
  | .hierarchy base subclasses => Report.hierarchy base subclasses

/-- The text of the report. -/
def text (q : Question) : String :=
  q.report.indented

/-- What the report shows. Of all numbers these are the ones of the nodes that are shown. -/
def view : Question → View
  | .map project root numbers children => .map project root numbers children
  | .expand n children numbers => .expand n (children.map fun c => (c, numbers c.id))
  | .inspect n calls calledBy => .inspect n calls calledBy
  | .hierarchy base subclasses => .hierarchy base subclasses

end Question

/-! ## Reading values -/

/-- A text, or its absence. -/
def optionalText? : Json → Option (Option String)
  | .null => some none
  | .str s => some (some s)
  | _ => none

/-- A whole number, or its absence. -/
def optionalInt? : Json → Option (Option Int)
  | .null => some none
  | .int n => some (some n)
  | _ => none

section Parts

variable {α : Type} (read : Json → Option α)

/-- The items of a list, each of them read by `read`. -/
def listOf? (v : Json) : Option (List α) :=
  v.items?.bind fun items => items.mapM read

/-- A field, read by `read`. -/
def fieldOf? (key : String) (v : Json) : Option α :=
  (v.field? key).bind read

end Parts

/-- The numbers of a value, with their labels. -/
def tallyOf? : Json → Option Tally
  | .obj fields => fields.mapM fun f => f.2.int?.map fun n => (f.1, n)
  | _ => none

/-- The node of a value. -/
def nodeOf? (v : Json) : Option Node := do
  let id ← fieldOf? optionalText? "id" v
  let name ← fieldOf? optionalText? "name" v
  let kind ← fieldOf? optionalText? "type" v
  let language ← fieldOf? optionalText? "language" v
  let parent ← fieldOf? optionalText? "parent_id" v
  let filePath ← fieldOf? optionalText? "file_path" v
  let firstLine ← fieldOf? optionalInt? "line_start" v
  let lastLine ← fieldOf? optionalInt? "line_end" v
  let signature ← fieldOf? optionalText? "signature" v
  let docstring ← fieldOf? optionalText? "docstring" v
  let children ← fieldOf? (listOf? optionalText?) "children_ids" v
  let calls ← fieldOf? (listOf? Json.text?) "calls" v
  let bases ← fieldOf? (listOf? Json.text?) "base_classes" v
  return { id, name, kind, parent, filePath, firstLine, lastLine, signature, docstring, children, calls, bases
           language }

/-- A node with its numbers. -/
def countedNodeOf? (v : Json) : Option (Node × Tally) := do
  return (← nodeOf? v, ← fieldOf? tallyOf? "stats" v)

/-- A directory with its numbers. -/
def countedIdOf? (v : Json) : Option (NodeId × Tally) := do
  return (← fieldOf? optionalText? "id" v, ← fieldOf? tallyOf? "stats" v)

namespace View

/-- The view of a value. The first field says which one it is. -/
def ofJson? (v : Json) : Option View := do
  let command ← fieldOf? Json.text? "command" v
  if command = "map" then
    return .map (← fieldOf? optionalText? "project" v) (← fieldOf? optionalText? "root" v)
      (← fieldOf? tallyOf? "stats" v) (← fieldOf? (listOf? countedIdOf?) "children" v)
  else if command = "expand" then
    return .expand (← fieldOf? nodeOf? "node" v) (← fieldOf? (listOf? countedNodeOf?) "children" v)
  else if command = "inspect" then
    return .inspect (← fieldOf? nodeOf? "node" v) (← fieldOf? (listOf? Json.text?) "calls" v)
      (← fieldOf? (listOf? optionalText?) "called_by" v)
  else if command = "hierarchy" then
    return .hierarchy (← fieldOf? Json.text? "base_class" v) (← fieldOf? (listOf? nodeOf?) "subclasses" v)
  else none

/-- What the text of a report shows. -/
def read? (text : String) : Option View :=
  (Json.read? text).bind ofJson?

end View

section Parts

variable {α : Type} {read : Json → Option α}

theorem fieldOf?_cons (key k : String) (v : Json) (fs : List (String × Json)) :
    fieldOf? read key (.obj ((k, v) :: fs)) = if key = k then read v else fieldOf? read key (.obj fs) := by
  by_cases h : key = k
  · simp [fieldOf?, Json.field?, h]
  · have hne : (key == k) = false := by simpa using h
    simp [fieldOf?, Json.field?, List.lookup_cons, h, hne]

theorem mapM_map {β : Type} {read : β → Option α} {write : α → β} (h : ∀ x, read (write x) = some x) (xs : List α) :
    (xs.map write).mapM read = some xs := by
  induction xs with
  | nil => rfl
  | cons x xs ih => simp [h, ih]

/-- A list is read as its items are. -/
theorem listOf?_map {write : α → Json} (h : ∀ x, read (write x) = some x) (xs : List α) :
    listOf? read (.arr (xs.map write)) = some xs :=
  mapM_map h xs

end Parts

theorem optionalText?_ofText? (s : Option String) : optionalText? (.ofText? s) = some s := by
  cases s <;> rfl

theorem optionalInt?_ofInt? (n : Option Int) : optionalInt? (.ofInt? n) = some n := by
  cases n <;> rfl

theorem listOf?_ofTexts (texts : List String) : listOf? Json.text? (.ofTexts texts) = some texts := by
  rw [Json.ofTexts]
  apply listOf?_map
  exact fun _ => rfl

theorem tallyOf?_ofTally (t : Tally) : tallyOf? (ofTally t) = some t := by
  rw [ofTally, tallyOf?]
  apply mapM_map
  exact fun _ => rfl

/-- Fields after those of a node do not matter. -/
theorem nodeOf?_nodeFields (n : Node) (more : List (String × Json)) :
    nodeOf? (.obj (nodeFields n ++ more)) = some n := by
  simp [nodeOf?, nodeFields, fieldOf?_cons, optionalText?_ofText?, optionalInt?_ofInt?, listOf?_ofTexts,
    listOf?_map optionalText?_ofText?]

theorem nodeOf?_ofNode (n : Node) : nodeOf? (ofNode n) = some n := by
  simpa [ofNode] using nodeOf?_nodeFields n []

/-- The numbers of a node stand after its fields, and none of these has their key. -/
theorem fieldOf?_stats (n : Node) (t : Tally) :
    fieldOf? tallyOf? "stats" (.obj (nodeFields n ++ [("stats", ofTally t)])) = some t := by
  simp [nodeFields, fieldOf?_cons, tallyOf?_ofTally]

/-! ## What is read of a report -/

namespace View

/-- The report that shows a view. -/
def report : View → Json
  | .map project root numbers children => Report.map project root numbers children
  | .expand n children =>
    .obj [("command", .str "expand"), ("node", ofNode n),
      ("children", .arr (children.map fun c => .obj (nodeFields c.1 ++ [("stats", ofTally c.2)])))]
  | .inspect n calls calledBy => Report.inspect n calls calledBy
  | .hierarchy base subclasses => Report.hierarchy base subclasses

/-- **A report is read as what it shows.** -/
theorem ofJson?_report (w : View) : ofJson? w.report = some w := by
  cases w with
  | map project root numbers children =>
    have hchildren : ∀ c : NodeId × Tally,
        countedIdOf? (.obj [("id", .ofText? c.1), ("stats", ofTally c.2)]) = some c := by
      intro c
      simp [countedIdOf?, fieldOf?_cons, optionalText?_ofText?, tallyOf?_ofTally]
    simp [ofJson?, report, Report.map, fieldOf?_cons, Json.text?, optionalText?_ofText?, tallyOf?_ofTally,
      listOf?_map hchildren]
  | expand n children =>
    -- the numbers are found behind the fields of the node
    have hchildren : ∀ c : Node × Tally,
        countedNodeOf? (.obj (nodeFields c.1 ++ [("stats", ofTally c.2)])) = some c := by
      intro c
      simp [countedNodeOf?, nodeOf?_nodeFields, fieldOf?_stats]
    simp [ofJson?, report, fieldOf?_cons, Json.text?, nodeOf?_ofNode, listOf?_map hchildren]
  | inspect n calls calledBy =>
    simp [ofJson?, report, Report.inspect, fieldOf?_cons, Json.text?, nodeOf?_ofNode, listOf?_ofTexts,
      listOf?_map optionalText?_ofText?]
  | hierarchy base subclasses =>
    simp [ofJson?, report, Report.hierarchy, fieldOf?_cons, Json.text?, listOf?_map nodeOf?_ofNode]

/-- The numbers that are shown. -/
def tallies : View → List Tally
  | .map _ _ numbers children => numbers :: children.map Prod.snd
  | .expand _ children => children.map Prod.snd
  | .inspect _ _ _ => []
  | .hierarchy _ _ => []

end View

/-- A report depends on what it shows only. -/
theorem Question.report_eq (q : Question) : q.report = q.view.report := by
  cases q with
  | expand n children numbers => simp [report, view, View.report, Report.expand, Function.comp_def]
  | map | inspect | hierarchy => rfl

/-! ## Keys -/

section Keys

variable {P : List String → Prop}

theorem keyed_ofText? (s : Option String) : Json.Keyed P (.ofText? s) := by
  cases s with
  | none => exact .null
  | some s => exact .str s

theorem keyed_ofInt? (n : Option Int) : Json.Keyed P (.ofInt? n) := by
  cases n with
  | none => exact .null
  | some n => exact .int n

theorem keyed_map {α : Type} {write : α → Json} {xs : List α} (h : ∀ x ∈ xs, Json.Keyed P (write x)) :
    Json.Keyed P (.arr (xs.map write)) :=
  .arr (List.forall_mem_map.mpr h)

theorem keyed_ofTexts (texts : List String) : Json.Keyed P (.ofTexts texts) :=
  keyed_map fun s _ => .str s

theorem keyed_ofTally {t : Tally} (h : P (t.map Prod.fst)) : Json.Keyed P (ofTally t) := by
  refine .obj (by simpa [Function.comp_def] using h) ?_
  rw [List.forall_mem_map]
  exact fun f _ => .int f.2

theorem keyed_nodeFields (n : Node) : ∀ f ∈ nodeFields n, Json.Keyed P f.2 := by
  simp [nodeFields, keyed_ofText?, keyed_ofInt?, keyed_ofTexts, keyed_map fun id _ => keyed_ofText? id]

variable (hP : ∀ keys, keys.Nodup → P keys)

include hP

theorem keyed_ofNode (n : Node) : Json.Keyed P (ofNode n) :=
  .obj (hP _ (by simp [nodeFields])) (keyed_nodeFields n)

/-- **The keys of a report** are as `P` says in every object, if those of the numbers are, because all others are
distinct. -/
theorem View.keyed_report {w : View} (h : ∀ t ∈ w.tallies, P (t.map Prod.fst)) : Json.Keyed P w.report := by
  cases w with
  | map project root numbers children =>
    obtain ⟨hnumbers, hcounts⟩ := List.forall_mem_cons.mp h
    have hchildren : ∀ c ∈ children, Json.Keyed P (.obj [("id", .ofText? c.1), ("stats", ofTally c.2)]) := by
      intro c hc
      refine .obj (hP _ (by simp)) ?_
      simp [keyed_ofText?, keyed_ofTally (hcounts c.2 (List.mem_map_of_mem hc))]
    refine .obj (hP _ (by simp)) ?_
    simp [keyed_ofText?, keyed_ofTally hnumbers, keyed_map hchildren, Json.Keyed.str]
  | expand n children =>
    -- the key of the numbers is none of the keys of a node
    have hchildren : ∀ c ∈ children, Json.Keyed P (.obj (nodeFields c.1 ++ [("stats", ofTally c.2)])) := by
      intro c hc
      refine .obj (hP _ (by simp [nodeFields])) ?_
      rw [List.forall_mem_append, List.forall_mem_singleton]
      exact ⟨keyed_nodeFields c.1, keyed_ofTally (h c.2 (List.mem_map_of_mem hc))⟩
    refine .obj (hP _ (by simp)) ?_
    simp [keyed_ofNode hP, keyed_map hchildren, Json.Keyed.str]
  | inspect n calls calledBy =>
    refine .obj (hP _ (by simp)) ?_
    simp [keyed_ofNode hP, keyed_ofTexts, keyed_map fun id _ => keyed_ofText? id, Json.Keyed.str]
  | hierarchy base subclasses =>
    refine .obj (hP _ (by simp)) ?_
    simp [keyed_map fun n _ => keyed_ofNode hP n, Json.Keyed.str, Json.Keyed.int, Json.ofNat]

end Keys

/-! ## The text of a report -/

namespace Question

variable (q : Question)

/-- Whatever the keys of the numbers are, a report has no doubles. -/
theorem keyed : Json.Keyed (fun _ => True) q.report := by
  rw [q.report_eq]
  exact View.keyed_report (fun _ _ => trivial) fun _ _ => trivial

theorem isText_iff (v : Json) : Json.IsText q.text v ↔ v = q.report := by
  have htext : Json.IsText q.text q.report := q.keyed.isText_indented
  constructor
  · intro h
    exact Option.some.inj (h.read?_eq.symm.trans htext.read?_eq)
  · rintro rfl
    exact htext

theorem read?_text : View.read? q.text = some q.view := by
  have hread : Json.read? q.text = some q.report := ((q.isText_iff q.report).mpr rfl).read?_eq
  rw [View.read?, hread, q.report_eq]
  exact View.ofJson?_report q.view

/-- **Reports lose nothing.** The text of a report has only ASCII characters, it is a JSON text, of the report and of no
other value, and what is read of it is what the report shows. No object in it has two fields with one key, if the
numbers that are shown have not. The texts of two reports are equal exactly if they show the same. -/
theorem view_kept :
    Json.Ascii q.text.toList ∧ (∀ v, Json.IsText q.text v ↔ v = q.report) ∧ View.read? q.text = some q.view ∧
      ((∀ t ∈ q.view.tallies, (t.map Prod.fst).Nodup) → Json.Keyed List.Nodup q.report) ∧
      ∀ other : Question, other.text = q.text ↔ other.view = q.view := by
  refine ⟨q.keyed.ascii_indented, q.isText_iff, q.read?_text, fun hnumbers => ?_, fun other =>
    ⟨fun htext => ?_, fun hview => ?_⟩⟩
  · rw [q.report_eq]
    exact View.keyed_report (fun _ hkeys => hkeys) hnumbers
  · -- equal texts are read alike
    have hread := other.read?_text
    rw [htext, q.read?_text] at hread
    exact (Option.some.inj hread).symm
  · rw [text, text, report_eq, report_eq, hview]

end Question

end Report

namespace Sample

/-- A node whose texts need escapes of every kind, and that lacks most of its fields. -/
def escapedNode : Node :=
  { id := none, name := some "\"é\\\t𝄞\x7f", kind := some "class", firstLine := some (-1), lastLine := some (10 ^ 30)
    children := [none, some ""], calls := ["", "f"] }

/-- The node with two nodes below it, of which one has numbers. -/
def escapedQuestion : Report.Question :=
  .expand escapedNode [escapedNode, { escapedNode with id := some "a" }] fun id =>
    id.elim [] fun _ => [("files", 3), ("classes", -2)]

end Sample

/-- Nodes with escapes, absent fields, large numbers and empty lists. -/
theorem view_kept_escaped :
    (∀ t ∈ Sample.escapedQuestion.view.tallies, (t.map Prod.fst).Nodup) ∧
      Json.Keyed List.Nodup Sample.escapedQuestion.report ∧
      Report.View.read? Sample.escapedQuestion.text = some Sample.escapedQuestion.view := by
  have hnumbers : ∀ t ∈ Sample.escapedQuestion.view.tallies, (t.map Prod.fst).Nodup := by
    simp [Sample.escapedQuestion, Sample.escapedNode, Report.Question.view, Report.View.tallies]
  obtain ⟨-, -, hread, hkeys, -⟩ := Sample.escapedQuestion.view_kept
  exact ⟨hnumbers, hkeys hnumbers, hread⟩

end CodeAtlas
