import Mathlib
import CodeAtlas.Proofs.Graph.Owned

/-!
# Saving a graph and loading it again

A graph is saved as a whole or not at all. It is refused exactly if the connection is closed, if two of its nodes share
an identifier, or if the table of nodes has no place for one of them. Then everything stays as it was, although the
tables have been emptied and some of the nodes inserted by the time of the failure.

A saved graph can be loaded and saved again. The lists of names are cut at their commas and joined again, so the columns
stay the same even if a name holds a comma, and an absent column stays absent. Only the list of a single empty name has
a column that is lost: it is written as an empty text, which is read as no names. So whatever is lost is lost the first
time.

## Main definitions

* `Node.Refused`: nodes for which there is no place in the table of nodes
* `NodeRow.Holds`: a row has the columns of a node
* `Connection.reload`: a graph loaded and saved again

## Main results

* `storeRows_eq_ok_iff`: when nodes can be inserted one after another
* `saveGraph_allOrNothing`: a graph is saved as a whole or not at all
* `Connection.reload_eq`: what loading and saving again does to the rows
* `nodes_reload_eq_iff`: when loading and saving again leaves the table of nodes as it is
-/

namespace CodeAtlas

open Store

/-! ## Nodes that are refused -/

/-- A whole number of 64 bits with a sign. -/
def Store.InRange (i : Int) : Prop :=
  -2 ^ 63 ≤ i ∧ i < 2 ^ 63

/-- A node for which there is no place in the table of nodes: it has no name or no kind, or the number of a line is out
of range. -/
def Node.Refused (n : Node) : Prop :=
  n.name = none ∨ n.kind = none ∨ ∃ line, (n.firstLine = some line ∨ n.lastLine = some line) ∧ ¬ InRange line

theorem Store.storableLine_iff {line : Option Int} : storableLine line = true ↔ ∀ i, line = some i → InRange i := by
  cases line with
  | none => simp [storableLine]
  | some i =>
    simp only [storableLine, fits64, InRange, Bool.and_eq_true, decide_eq_true_eq, Option.some.injEq, forall_eq']
    omega

theorem Node.not_refused_iff {n : Node} : ¬ n.Refused ↔ ∃ r, NodeRow.ofNode? n = .ok r := by
  simp only [NodeRow.ofNode?_eq_ok_iff, storableLine_iff, Refused, not_or, not_exists, not_and, not_not]
  constructor
  · rintro ⟨hname, hkind, hlines⟩
    obtain ⟨name, hname⟩ := Option.ne_none_iff_exists'.mp hname
    obtain ⟨kind, hkind⟩ := Option.ne_none_iff_exists'.mp hkind
    refine ⟨{ id := n.id, parent := n.parent, name := name, kind := kind, filePath := n.filePath
              firstLine := n.firstLine, lastLine := n.lastLine, signature := n.signature, docstring := n.docstring
              calls := joinNames n.calls, bases := joinNames n.bases, language := n.language }, ?_⟩
    exact ⟨fun i hi => hlines i (Or.inl hi), fun i hi => hlines i (Or.inr hi), hname, hkind, rfl⟩
  · rintro ⟨r, hfirst, hlast, hname, hkind, -⟩
    refine ⟨by simp [hname], by simp [hkind], fun i hi => ?_⟩
    rcases hi with hi | hi
    · exact hfirst i hi
    · exact hlast i hi

namespace Store

/-- Nodes that are stored have different identifiers, apart from missing ones, and none that is taken. -/
theorem nodup_of_storeRows {ns : List Node} {taken : List String} {rows : List NodeRow}
    (h : storeRows taken ns = .ok rows) :
    (ns.filterMap (·.id)).Nodup ∧ ∀ id ∈ taken, id ∉ ns.filterMap (·.id) := by
  -- on the nodes; the identifier of each node is taken from then on
  induction ns generalizing taken rows with
  | nil => simp
  | cons n rest ih =>
    rw [storeRows] at h
    cases hn : NodeRow.ofNode? n with
    | error f =>
      rw [hn] at h
      cases h
    | ok r =>
      rw [hn] at h
      have hrest : ∀ {taken' : List String}, (storeRows taken' rest).map (r :: ·) = .ok rows →
          ∃ rows', storeRows taken' rest = .ok rows' := by
        intro taken' hmap
        cases hstored : storeRows taken' rest with
        | error f =>
          rw [hstored] at hmap
          cases hmap
        | ok rows' => exact ⟨rows', rfl⟩
      have hid := NodeRow.id_of_ofNode? hn
      cases hr : r.id with
      | none =>
        simp only [hr] at h
        obtain ⟨rows', hstored⟩ := hrest h
        rw [List.filterMap_cons_none (hid.symm.trans hr)]
        exact ih hstored
      | some id =>
        simp only [hr] at h
        split at h
        · cases h
        · next hfree =>
          obtain ⟨rows', hstored⟩ := hrest h
          obtain ⟨hnodup, htaken⟩ := ih hstored
          rw [List.filterMap_cons_some (hid.symm.trans hr)]
          refine ⟨List.nodup_cons.mpr ⟨htaken id List.mem_cons_self, hnodup⟩, fun id' hid' hm => ?_⟩
          rcases List.mem_cons.mp hm with rfl | hm
          · exact hfree (List.contains_iff_mem.mpr hid')
          · exact htaken id' (List.mem_cons_of_mem _ hid') hm

/-- **When nodes can be inserted one after another**: their identifiers are different, and none of them is refused. -/
theorem storeRows_eq_ok_iff {ns : List Node} (hids : ∀ n ∈ ns, n.id ≠ none) :
    (∃ rows, storeRows [] ns = .ok rows) ↔ (ns.map (·.id)).Nodup ∧ ∀ n ∈ ns, ¬ n.Refused := by
  simp only [Node.not_refused_iff]
  constructor
  · rintro ⟨rows, hrows⟩
    refine ⟨?_, fun n hn => ?_⟩
    · have hnodup := (nodup_of_storeRows hrows).1
      rw [List.Nodup, List.pairwise_filterMap] at hnodup
      rw [List.Nodup, List.pairwise_map]
      refine hnodup.imp_of_mem fun {n m} hn _ hne heq => ?_
      obtain ⟨id, hid⟩ := Option.ne_none_iff_exists'.mp (hids n hn)
      exact hne id hid id (heq ▸ hid) rfl
    · have hm : NodeRow.ofNode? n ∈ ns.map NodeRow.ofNode? := List.mem_map_of_mem hn
      rw [storeRows_eq_ok hrows] at hm
      obtain ⟨r, -, hr⟩ := List.mem_map.mp hm
      exact ⟨r, hr.symm⟩
  · rintro ⟨hnodup, hrows⟩
    exact ⟨_, storeRows_eq hrows hnodup (by simp)⟩

/-! ## All or nothing -/

/-- Nodes that are stored come to one row each, in their order. -/
theorem forall₂_of_storeRows {g : Graph} {rows : List NodeRow} (h : storeRows [] (g.nodes.map (·.2)) = .ok rows) :
    List.Forall₂ (fun entry row => NodeRow.ofNode? entry.2 = .ok row) g.nodes rows := by
  have hmap := storeRows_eq_ok h
  rwa [List.map_map, ← List.forall₂_eq_eq_eq, List.forall₂_map_left_iff, List.forall₂_map_right_iff] at hmap

/-- A row has the columns of a node. -/
structure NodeRow.Holds (r : NodeRow) (n : Node) : Prop where
  id : r.id = n.id
  parent : r.parent = n.parent
  name : some r.name = n.name
  kind : some r.kind = n.kind
  filePath : r.filePath = n.filePath
  firstLine : r.firstLine = n.firstLine
  lastLine : r.lastLine = n.lastLine
  signature : r.signature = n.signature
  docstring : r.docstring = n.docstring
  calls : r.calls = joinNames n.calls
  bases : r.bases = joinNames n.bases
  language : r.language = n.language

theorem NodeRow.holds_of_ofNode? {n : Node} {r : NodeRow} (h : ofNode? n = .ok r) : r.Holds n := by
  obtain ⟨-, -, hname, hkind, hr⟩ := ofNode?_eq_ok_iff.mp h
  rw [hr]
  exact ⟨rfl, rfl, hname.symm, hkind.symm, rfl, rfl, rfl, rfl, rfl, rfl, rfl, rfl⟩

end Store

/-- **A graph is saved as a whole or not at all.** On a connection without a transaction, a graph whose nodes have
identifiers is refused exactly if the connection is closed, two nodes share an identifier or one is refused. Then
nothing has changed, and no transaction is open. Otherwise the nodes come to one row each, in their order, the other
tables but that of the files are empty, and all of this is committed. -/
theorem saveGraph_allOrNothing {R : Type} {c : Connection R} (hpending : c.pending = none) {g : Graph}
    (hids : ∀ entry ∈ g.nodes, entry.2.id ≠ none) :
    ((∃ f, (c.saveGraph g).1 = .error f) ↔
        c.isOpen = false ∨ ¬ (g.nodes.map (·.2.id)).Nodup ∨ ∃ entry ∈ g.nodes, entry.2.Refused) ∧
      (∀ f, (c.saveGraph g).1 = .error f → (c.saveGraph g).2 = c) ∧
      ((c.saveGraph g).1 = .ok () → ∃ rows, List.Forall₂ (fun entry row => NodeRow.Holds row entry.2) g.nodes rows ∧
        (c.saveGraph g).2 = { c with committed :=
          { nodes := rows, relations := [], files := c.committed.files, terms := [], rarity := [] } }) := by
  have hstored : (∃ rows, storeRows [] (g.nodes.map (·.2)) = .ok rows) ↔
      (g.nodes.map (·.2.id)).Nodup ∧ ∀ entry ∈ g.nodes, ¬ entry.2.Refused := by
    rw [storeRows_eq_ok_iff (List.forall_mem_map.mpr hids), List.map_map, List.forall_mem_map]
    rfl
  rw [Connection.saveGraph_eq]
  by_cases hclosed : c.isOpen = false
  · rw [if_neg (by simp [hclosed])]
    exact ⟨⟨fun _ => Or.inl hclosed, fun _ => ⟨_, rfl⟩⟩, fun _ _ => rfl, fun h => by cases h⟩
  have hopen : c.isOpen = true := by simpa using hclosed
  rw [if_pos hopen, hpending]
  simp only [hopen, Bool.true_eq_false, false_or]
  cases hrows : storeRows [] (g.nodes.map (·.2)) with
  | error f =>
    have hnot : ¬ ∃ rows, storeRows [] (g.nodes.map (·.2)) = .ok rows := by simp [hrows]
    rw [hstored, not_and_or] at hnot
    refine ⟨⟨fun _ => ?_, fun _ => ⟨f, rfl⟩⟩, fun _ _ => rfl, fun h => by cases h⟩
    simpa using hnot
  | ok rows =>
    obtain ⟨hnodup, hplaces⟩ := hstored.mp ⟨rows, hrows⟩
    refine ⟨⟨fun ⟨f, hf⟩ => (by cases hf), ?_⟩, fun f hf => (by cases hf), fun _ => ⟨rows, ?_, rfl⟩⟩
    · rintro (hshared | ⟨entry, hentry, hrefused⟩)
      · exact absurd hnodup hshared
      · exact absurd hrefused (hplaces entry hentry)
    · exact (forall₂_of_storeRows hrows).imp fun entry row hrow => NodeRow.holds_of_ofNode? hrow

namespace Sample

/-- A function with an identifier. -/
def functionNode (id : String) : Node :=
  { id := some id, name := some id, kind := some "function" }

/-- A connection to a database with a function, a file, and a search index. -/
def indexedConnection : Connection Float where
  committed :=
    { nodes := [{ (default : NodeRow) with id := some "old", name := "old", kind := "function" }]
      files := [("a.py", "1")], terms := [⟨some "old", "old", 1⟩], rarity := [("old", 1)] }

end Sample

/-- Three functions under different keys, of which the last has the identifier of the first, are refused although the
first two could be inserted, and the search index is still there. Without the last one they are saved. -/
theorem saveGraph_of_shared_id :
    let c := Sample.indexedConnection
    let g : Graph := ⟨[(some "x", Sample.functionNode "a"), (some "y", Sample.functionNode "b"),
      (some "z", Sample.functionNode "a")]⟩
    let fewer : Graph := ⟨g.nodes.take 2⟩
    (∃ f, (c.saveGraph g).1 = .error f) ∧ (c.saveGraph g).2 = c ∧ (c.saveGraph fewer).1 = .ok () ∧
      (c.saveGraph fewer).2.view.nodes.map (·.id) = [some "a", some "b"] := by
  intro c g fewer
  have hids : ∀ entry ∈ g.nodes, entry.2.id ≠ none := by decide
  obtain ⟨hiff, hsame, -⟩ := saveGraph_allOrNothing (c := c) rfl hids
  obtain ⟨f, hf⟩ := hiff.mpr (Or.inr (Or.inl (by decide)))
  exact ⟨⟨f, hf⟩, hsame f hf, by decide +kernel, by decide +kernel⟩

/-- A closed connection refuses a graph whose nodes have different identifiers and are not refused themselves. -/
theorem saveGraph_of_closed :
    let c := Sample.indexedConnection.close
    let g : Graph := ⟨[(some "a", Sample.functionNode "a")]⟩
    c.pending = none ∧ (g.nodes.map (·.2.id)).Nodup ∧ (∀ entry ∈ g.nodes, entry.2.id ≠ none ∧ ¬ entry.2.Refused) ∧
      (c.saveGraph g).1 = .error .closed := by
  intro c g
  have hstored : ∀ entry ∈ g.nodes, entry.2.id ≠ none ∧ ¬ entry.2.Refused := by
    simp only [g, List.mem_singleton, forall_eq]
    exact ⟨by decide, Node.not_refused_iff.mpr ⟨_, rfl⟩⟩
  exact ⟨rfl, by decide, hstored, rfl⟩

/-! ## Loading and saving again -/

namespace Store

/-- A column that has been read and written again. -/
def rejoined (column : Option String) : Option String :=
  joinNames (splitNames column)

theorem rejoined_eq_self_iff {column : Option String} : rejoined column = column ↔ column ≠ some "" := by
  constructor
  · rintro h rfl
    cases h
  · exact joinNames_splitNames

/-- A column that has been read and written again does not change any more. -/
theorem rejoined_rejoined (column : Option String) : rejoined (rejoined column) = rejoined column := by
  by_cases hempty : column = some ""
  · rw [hempty]
    rfl
  · rw [rejoined_eq_self_iff.mpr hempty, rejoined_eq_self_iff.mpr hempty]

namespace NodeRow

/-- A row whose node has been loaded and saved again. -/
def reread (r : NodeRow) : NodeRow :=
  { r with calls := rejoined r.calls, bases := rejoined r.bases }

theorem reread_reread (r : NodeRow) : r.reread.reread = r.reread := by
  simp only [reread, rejoined_rejoined]

theorem reread_eq_self_iff {r : NodeRow} : r.reread = r ↔ r.calls ≠ some "" ∧ r.bases ≠ some "" := by
  rw [← rejoined_eq_self_iff, ← rejoined_eq_self_iff]
  cases r
  simp [reread]

/-- A row whose line numbers are in range. -/
def LinesFit (r : NodeRow) : Prop :=
  storableLine r.firstLine = true ∧ storableLine r.lastLine = true

theorem linesFit_of_ofNode? {n : Node} {r : NodeRow} (h : ofNode? n = .ok r) : r.LinesFit := by
  obtain ⟨hfirst, hlast, -, -, hr⟩ := ofNode?_eq_ok_iff.mp h
  rw [hr]
  exact ⟨hfirst, hlast⟩

/-- A row that is read as a node and stored again. -/
theorem ofNode?_toNode {r : NodeRow} (h : r.LinesFit) (children : List NodeId) :
    ofNode? (r.toNode children) = .ok r.reread :=
  ofNode?_eq_ok_iff.mpr ⟨h.1, h.2, rfl, rfl, rfl⟩

end NodeRow

variable {R : Type}

/-- Rows with different identifiers whose line numbers are in range, as a graph is saved. -/
structure Tables.Reloadable (t : Tables R) : Prop where
  distinct : (t.nodes.map (·.id)).Nodup
  linesFit : ∀ r ∈ t.nodes, r.LinesFit

namespace Connection

/-- The graph of all nodes loaded, and saved again. -/
def reload (c : Connection R) : Except Failure Unit × Connection R :=
  match c.ask (·.graph) with
  | .ok g => c.saveGraph g
  | .error f => (.error f, c)

/-- **Loading and saving again** reads and writes the columns of each row. -/
theorem reload_eq {c : Connection R} (hopen : c.isOpen = true) (hpending : c.pending = none)
    (h : c.committed.Reloadable) :
    c.reload = (.ok (), { c with committed := c.committed.withNodes (c.committed.nodes.map NodeRow.reread) }) := by
  have hnodes : c.committed.graph.nodes.map (·.2) =
      c.committed.nodes.map fun r => r.toNode (c.committed.loadedChildren r.id) := by
    rw [Tables.nodes_graph h.distinct, List.map_map]
    rfl
  have hstored : ∀ r ∈ c.committed.nodes,
      NodeRow.ofNode? (r.toNode (c.committed.loadedChildren r.id)) = .ok r.reread :=
    fun r hr => NodeRow.ofNode?_toNode (h.linesFit r hr) _
  have hrows : storeRows [] (c.committed.graph.nodes.map (·.2)) = .ok (c.committed.nodes.map NodeRow.reread) := by
    rw [hnodes, storeRows_eq]
    · rw [List.filterMap_map, ← List.filterMap_eq_map]
      refine congrArg _ (List.filterMap_congr fun r hr => ?_)
      rw [Function.comp_apply, hstored r hr]
      rfl
    · exact List.forall_mem_map.mpr fun r hr => ⟨_, hstored r hr⟩
    · rw [List.map_map]
      exact h.distinct
    · simp
  rw [reload, ask_of_isOpen hopen, view_of_pending_eq_none hpending]
  simp only
  rw [saveGraph_eq, if_pos hopen, hpending]
  simp only
  rw [hrows]

end Connection

/-- Rows that have been loaded and saved again can be loaded and saved once more. -/
theorem Tables.Reloadable.map_reread {t : Tables R} (h : t.Reloadable) :
    (t.withNodes (t.nodes.map NodeRow.reread)).Reloadable where
  distinct := by
    change ((t.nodes.map NodeRow.reread).map (·.id)).Nodup
    rw [List.map_map]
    exact h.distinct
  linesFit := List.forall_mem_map.mpr h.linesFit

theorem NodeRow.reread_eq_self_of_ofNode?_iff {n : Node} {r : NodeRow} (h : ofNode? n = .ok r) :
    r.reread = r ↔ n.calls ≠ [""] ∧ n.bases ≠ [""] := by
  obtain ⟨-, -, -, -, hr⟩ := ofNode?_eq_ok_iff.mp h
  rw [reread_eq_self_iff, hr]
  simp only [ne_eq, joinNames_eq_empty_iff]

theorem map_reread_eq_iff {entries : List (NodeId × Node)} {rows : List NodeRow}
    (h : List.Forall₂ (fun entry row => NodeRow.ofNode? entry.2 = .ok row) entries rows) :
    rows.map NodeRow.reread = rows ↔ ∀ entry ∈ entries, entry.2.calls ≠ [""] ∧ entry.2.bases ≠ [""] := by
  induction h with
  | nil => simp
  | cons hrow _ ih =>
    rw [List.map_cons, List.cons.injEq, List.forall_mem_cons, ih, NodeRow.reread_eq_self_of_ofNode?_iff hrow]

/-- The rows of a graph whose keys are the identifiers of its nodes. -/
theorem Tables.reloadable_withNodes {t : Tables R} {g : Graph} {rows : List NodeRow} (hdistinct : g.keys.Nodup)
    (hkeys : ∀ entry ∈ g.nodes, entry.2.id = entry.1) (hrows : storeRows [] (g.nodes.map (·.2)) = .ok rows) :
    (t.withNodes rows).Reloadable where
  distinct := by
    have hids : rows.map (·.id) = g.keys := by
      rw [Graph.keys, ← List.forall₂_eq_eq_eq, List.forall₂_map_left_iff, List.forall₂_map_right_iff]
      have hboth := (List.forall₂_and_left _ _).mpr ⟨hkeys, forall₂_of_storeRows hrows⟩
      exact hboth.flip.imp fun row entry h => (NodeRow.id_of_ofNode? h.2).trans h.1
    change (rows.map (·.id)).Nodup
    rw [hids]
    exact hdistinct
  linesFit row hrow := by
    obtain ⟨n, -, hn⟩ := exists_of_mem_storeRows hrows hrow
    exact NodeRow.linesFit_of_ofNode? hn

end Store

/-- **When loading and saving again leaves the table of nodes as it is.** A graph whose keys are the identifiers of its
nodes has been saved. Then it can be loaded and saved again, and again, and only the first time anything changes. All
rows and their order stay the same exactly if no list of names is that of a single empty name. -/
theorem nodes_reload_eq_iff {R : Type} {c c' : Connection R} {g : Graph} (hdistinct : g.keys.Nodup)
    (hkeys : ∀ entry ∈ g.nodes, entry.2.id = entry.1) (hsave : c.saveGraph g = (.ok (), c')) :
    ∃ c'', c'.reload = (.ok (), c'') ∧ c''.reload = (.ok (), c'') ∧
      (c''.view.nodes = c'.view.nodes ↔ ∀ entry ∈ g.nodes, entry.2.calls ≠ [""] ∧ entry.2.bases ≠ [""]) := by
  obtain ⟨rows, hrows, hopen, hpending, rfl⟩ := Connection.eq_withNodes_of_saveGraph hsave
  have hsaved := Tables.reloadable_withNodes (t := c.committed) hdistinct hkeys hrows
  have hview : ∀ t, ({ c with committed := t } : Connection R).view = t :=
    fun _ => Connection.view_of_pending_eq_none hpending
  have hagain := Connection.reload_eq (c := { c with committed := (c.committed.withNodes rows).withNodes _ })
    hopen hpending hsaved.map_reread
  refine ⟨_, Connection.reload_eq hopen hpending hsaved, hagain.trans ?_, ?_⟩
  · have htwice : (rows.map NodeRow.reread).map NodeRow.reread = rows.map NodeRow.reread := by
      rw [List.map_map]
      exact List.map_congr_left fun row _ => row.reread_reread
    exact congrArg (fun rows => (Except.ok (), { c with committed := c.committed.withNodes rows })) htwice
  · rw [hview, hview]
    exact map_reread_eq_iff (forall₂_of_storeRows hrows)

namespace Sample

/-- A class without a docstring and with two names of calls, of which the first holds a comma, and with bases. -/
def classNode (bases : List String) : Node :=
  { id := some "a.py:A", name := some "A", kind := some "class", docstring := none, calls := ["f,g", "h"],
    bases := bases }

/-- A graph of one class. -/
def classGraph (bases : List String) : Graph :=
  ⟨[(some "a.py:A", classNode bases)]⟩

end Sample

/-- Names with commas, no names and a missing docstring stay as they are. A single empty name is lost. -/
theorem nodes_reload_of_comma :
    let saved := fun bases => (Sample.indexedConnection.saveGraph (Sample.classGraph bases)).2
    (∃ c'', (saved []).reload = (.ok (), c'') ∧ c''.view.nodes = (saved []).view.nodes) ∧
      ∃ c'', (saved [""]).reload = (.ok (), c'') ∧ c''.view.nodes ≠ (saved [""]).view.nodes := by
  intro saved
  have hsave : ∀ bases, Sample.indexedConnection.saveGraph (Sample.classGraph bases) = (.ok (), saved bases) :=
    fun bases => rfl
  have hstable := fun bases => nodes_reload_eq_iff (g := Sample.classGraph bases) (List.nodup_singleton _)
    (by simp [Sample.classGraph, Sample.classNode]) (hsave bases)
  constructor
  · obtain ⟨c'', hreload, -, hiff⟩ := hstable []
    exact ⟨c'', hreload, hiff.mpr (by simp [Sample.classGraph, Sample.classNode])⟩
  · obtain ⟨c'', hreload, -, hiff⟩ := hstable [""]
    exact ⟨c'', hreload, fun h => by simpa [Sample.classGraph, Sample.classNode] using hiff.mp h⟩

end CodeAtlas
