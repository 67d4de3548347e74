import Mathlib
import CodeAtlas.Proofs.Project.History
import CodeAtlas.Proofs.Project.Scanned
import CodeAtlas.Proofs.Store.Subtree

/-!
# Numbers of nodes

How many files, classes, functions and methods there are at and below a node is counted in two ways. The graph follows
the lists of children, and the tables follow the parents that the rows name. Both go down level by level, as deep as
there are nodes, so both give the same numbers at every node of a linked graph.

A scanned project is not always linked. A declaration that is made twice in a file is one node, but stands twice among
the children of the file, so the graph counts it twice. A declaration that comes before its container is not among the
children of the container, and the graph does not count it at all.

## Main results

* `stats_eq_of_linked`: in a linked graph both ways give the same numbers
* `linked_scan_iff_inStep`: when a scanned project is linked, and what follows for the numbers
-/

namespace CodeAtlas

open Store

/-! ## Counting along children and along parents -/

section Stored

/- The rows of a graph are stored as the nodes of some tables. -/
variable {R : Type} {g : Graph} (hg : g.Owned) {t : Tables R}
  (hstored : storeRows [] (g.nodes.map (·.2)) = .ok t.nodes)

include hstored

theorem exists_row_of_find? {k : NodeId} {n : Node} (hn : g.find? k = some n) :
    ∃ r ∈ t.nodes, NodeRow.ofNode? n = .ok r := by
  have hm : NodeRow.ofNode? n ∈ (g.nodes.map (·.2)).map NodeRow.ofNode? :=
    List.mem_map_of_mem (List.mem_map.mpr ⟨(k, n), Graph.mem_of_find? hn, rfl⟩)
  rw [storeRows_eq_ok hstored] at hm
  obtain ⟨r, hr, heq⟩ := List.mem_map.mp hm
  exact ⟨r, hr, heq.symm⟩

theorem length_nodes_eq : t.nodes.length = g.nodes.length := by
  have hlength := congrArg List.length (storeRows_eq_ok hstored)
  simpa using hlength.symm

include hg

theorem find?_of_mem_nodes {r : NodeRow} (hr : r ∈ t.nodes) :
    ∃ n, g.find? r.id = some n ∧ NodeRow.ofNode? n = .ok r := by
  rw [rows_of_storeRows hstored] at hr
  obtain ⟨n, hn, hok⟩ := hg.exists_of_mem_rows hr
  obtain ⟨m, hm, rfl⟩ := Graph.bare?_eq_some_iff.mp hn
  exact ⟨m, hm, hok⟩

theorem nodup_ids_nodes : (t.nodes.map (·.id)).Nodup := by
  rw [rows_of_storeRows hstored]
  exact hg.nodup_map_id_rows

theorem mem_below_iff {id : String} {c : NodeId} :
    c ∈ (t.below (some id)).map (·.id) ↔ ∃ m, g.find? c = some m ∧ m.parent = some id := by
  simp only [Tables.below, List.mem_map, List.mem_filter, beq_iff_eq]
  constructor
  · rintro ⟨r, ⟨hr, hparent⟩, rfl⟩
    obtain ⟨n, hn, hok⟩ := find?_of_mem_nodes hg hstored hr
    exact ⟨n, hn, (NodeRow.parent_of_ofNode? hok).symm.trans hparent⟩
  · rintro ⟨m, hm, hparent⟩
    obtain ⟨r, hr, hok⟩ := exists_row_of_find? hstored hm
    refine ⟨r, ⟨hr, (NodeRow.parent_of_ofNode? hok).trans hparent⟩, ?_⟩
    rw [NodeRow.id_of_ofNode? hok]
    exact (hg.each (Graph.mem_of_find? hm)).1

variable (hsome : ∀ k n, g.find? k = some n → k.isSome = true) (hlinked : g.Linked)

include hsome hlinked

/-- The rows below a row are the children of its node, in some order. -/
theorem below_perm_children {k : NodeId} {n : Node} (hn : g.find? k = some n) :
    ((t.below k).map (·.id)).Perm n.children := by
  obtain ⟨hnodup, hchildren⟩ := hlinked k n hn
  obtain ⟨id, rfl⟩ := Option.isSome_iff_exists.mp (hsome k n hn)
  have hids : ((t.below (some id)).map (·.id)).Nodup :=
    (List.filter_sublist.map _).nodup (nodup_ids_nodes hg hstored)
  rw [List.perm_ext_iff_of_nodup hids hnodup]
  intro c
  rw [mem_below_iff hg hstored, hchildren]

/-- **In a linked graph both ways of counting give the same numbers** at every key. -/
theorem stats_eq_of_linked (k : NodeId) : g.stats k = t.stats k := by
  have hmirrors : t.Mirrors g := by
    refine ⟨nodup_ids_nodes hg hstored, length_nodes_eq hstored, fun r hr => ?_, fun k n hn => ?_⟩
    · obtain ⟨n, hn, hok⟩ := find?_of_mem_nodes hg hstored hr
      exact ⟨hsome r.id n hn, n, hn, NodeRow.kind_of_ofNode? hok, below_perm_children hg hstored hsome hlinked hn⟩
    · obtain ⟨r, hr, hok⟩ := exists_row_of_find? hstored hn
      exact ⟨r, hr, (NodeRow.id_of_ofNode? hok).trans (hg.each (Graph.mem_of_find? hn)).1⟩
  exact hmirrors.stats_eq k

end Stored

/-! ## Scanned projects -/

/-- **When a scanned project is linked**: exactly if its nodes come in step with the nodes above them, so that a
declaration is made again exactly if its container is. Then, and if its nodes can be saved, the graph and the tables
give the same numbers at every node. -/
theorem linked_scan_iff_inStep {R : Type} (s : Source) (patterns : List String) (disk : Entry) :
    let edits := (buildEdits s patterns disk).list
    let g := Graph.empty.applyAll edits
    (g.Linked ↔ InStep (Edit.puts edits)) ∧
      (InStep (Edit.puts edits) → ∀ c c' : Connection R, c.saveGraph g = (.ok (), c') →
        ∀ k, g.stats k = c'.view.stats k) := by
  intro edits g
  have hfresh := fresh_of_mem_puts_buildEdits s patterns disk
  have hgraph : g = Graph.empty.applyAll (linkEdits (Edit.puts edits)) := applyAll_buildEdits_eq s patterns disk
  have hbare : ∀ n ∈ Edit.puts edits, n.children = [] := fun n hn => (hfresh n hn).1
  have hiff : g.Linked ↔ InStep (Edit.puts edits) := hgraph ▸ linked_iff_inStep hbare
  refine ⟨hiff, fun hstep c c' hsave k => ?_⟩
  obtain ⟨rows, hrows, hview, -⟩ := Connection.eq_of_saveGraph hsave
  have hsome : ∀ k n, g.find? k = some n → k.isSome = true := by
    intro k n hn
    rw [hgraph, find?_linkEdits_iff hbare] at hn
    obtain ⟨m, later, ⟨hsuffix, rfl, -⟩, -⟩ := hn
    exact (hfresh m (hsuffix.subset List.mem_cons_self)).2.1
  rw [hview]
  exact stats_eq_of_linked (t := c.committed.withNodes rows) (owned_applyAll_buildEdits s patterns disk) hrows hsome
    (hiff.mpr hstep) k

/-- A function that is declared twice stands twice among the children of its file: the graph counts two functions, and
the tables count one. With two functions of different names the numbers agree everywhere. -/
theorem not_linked_after_redefinition :
    let twice := Sample.folder [("a.py", Sample.file "fetch fetch")]
    let once := Sample.folder [("a.py", Sample.file "fetch load")]
    ¬ (Sample.words.built twice).Linked ∧
      (Sample.words.built twice).stats (some "a.py") = { files := 1, functions := 2 } ∧
      (indexAll Sample.words twice ({} : Tables Float)).2.stats (some "a.py") = { files := 1, functions := 1 } ∧
      ∃ c : Connection Float, ({} : Connection Float).saveGraph (Sample.words.built once) = (.ok (), c) ∧
        ∀ k, (Sample.words.built once).stats k = c.view.stats k := by
  intro twice once
  refine ⟨fun hlinked => ?_, by decide +kernel, by decide +kernel, ?_⟩
  · exact absurd ((linked_scan_iff_inStep (R := Float) Sample.words [] twice).1.mp hlinked) (by decide +kernel)
  · have hindexable : Indexable Sample.words once := by decide +kernel
    have hsave := Connection.saveGraph_of_tidy (c := ({} : Connection Float)) hindexable.tidy_built rfl rfl
    have hstep : InStep (Edit.puts (buildEdits Sample.words [] once).list) := by decide +kernel
    exact ⟨_, hsave, (linked_scan_iff_inStep (R := Float) Sample.words [] once).2 hstep {} _ hsave⟩

end CodeAtlas
