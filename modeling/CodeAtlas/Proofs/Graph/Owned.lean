import Mathlib
import CodeAtlas.Proofs.Store.Saved

/-!
# To which path a key belongs

A key belongs to a path if it is the path, or continues the path with a colon. A graph is owned if every node stands
under its own identifier, and the identifier belongs to the path of the node, if it has one. All nodes that a scan puts
are of this kind, so the graph of every database that the program has written is owned. Nothing else is asked of the
nodes: they need not have names, and their numbers need not fit a column.

The table of nodes does not keep the children of a node. So owned graphs with the same nodes, apart from the children,
are saved as the same rows.

## Main definitions

* `Owns`: a key belongs to a path
* `Graph.Owned`, `Tables.Owned`: the keys of nodes with a path belong to the path

## Main results

* `Graph.Owned.applyAll`: edits that put owned nodes leave a graph owned
* `Graph.Owned.rows_perm`: owned graphs with the same nodes have the same rows
* `Tables.Owned.graph`, `Tables.owned_of_nodes_eq`: loading and saving keep ownership
-/

namespace CodeAtlas

open Store

/-- A key belongs to a path: it is the path, or it continues the path with a colon. -/
def Owns (path : String) (k : NodeId) : Prop :=
  k = some path ∨ ∃ rest, k = some (path ++ ":" ++ rest)

/-- A node that a key may hold: the key is its identifier, and belongs to its path if it has one. -/
def Node.Owned (key : NodeId) (n : Node) : Prop :=
  n.id = key ∧ ∀ path, n.filePath = some path → Owns path key

/-! ## Owned graphs -/

namespace Graph

/-- A graph in which all keys are different and hold owned nodes. -/
def Owned (g : Graph) : Prop :=
  g.Each fun k n => n.Owned k

theorem owned_empty : empty.Owned := ⟨List.nodup_nil, fun h => absurd h (by simp [empty])⟩

namespace Owned

variable {g : Graph}

theorem of_bare? (h : g.Owned) {k : NodeId} {n : Node} (hn : g.bare? k = some n) : n.Owned k := by
  obtain ⟨m, hm, rfl⟩ := bare?_eq_some_iff.mp hn
  have howned : m.Owned k := h.each (mem_of_find? hm)
  exact howned

/-- **Edits that put owned nodes leave a graph owned.** -/
theorem applyAll (h : g.Owned) {es : List Edit} (hes : ∀ k n, .put k n ∈ es → n.Owned k) : (g.applyAll es).Owned :=
  Each.applyAll (fun _ hn => hn) h hes

/-! ## What is stored -/

theorem mem_bares (h : g.Owned) {n : Node} : n ∈ g.nodes.map (·.2.bare) ↔ g.bare? n.id = some n := by
  rw [List.mem_map, bare?_eq_some_iff]
  constructor
  · rintro ⟨⟨k, m⟩, hm, rfl⟩
    refine ⟨m, ?_, rfl⟩
    rw [Node.bare_id, (h.each hm).1]
    exact find?_of_mem h.distinct hm
  · rintro ⟨m, hm, hbare⟩
    exact ⟨(n.id, m), mem_of_find? hm, hbare⟩

theorem map_id (h : g.Owned) : g.nodes.map (·.2.id) = g.keys :=
  List.map_congr_left fun _ hm => (h.each hm).1

theorem nodup_bares (h : g.Owned) : (g.nodes.map (·.2.bare)).Nodup := by
  have hids : ((g.nodes.map (·.2.bare)).map (·.id)).Nodup := by
    rw [List.map_map]
    change (g.nodes.map (·.2.id)).Nodup
    rw [h.map_id]
    exact h.distinct
  exact .of_map _ hids

end Owned

/-- The rows of a graph are made of its nodes without their children. -/
theorem rows_eq (g : Graph) : g.rows = (g.nodes.map (·.2.bare)).filterMap fun n => (NodeRow.ofNode? n).toOption := by
  rw [rows, List.filterMap_map, List.filterMap_map]
  rfl

namespace Owned

variable {g : Graph}

/-- **Owned graphs with the same nodes have the same rows**, up to their order. -/
theorem rows_perm (h : g.Owned) {g' : Graph} (h' : g'.Owned) (hsame : ∀ k, g.bare? k = g'.bare? k) :
    g.rows.Perm g'.rows := by
  rw [rows_eq, rows_eq]
  refine List.Perm.filterMap _ ?_
  rw [List.perm_ext_iff_of_nodup h.nodup_bares h'.nodup_bares]
  intro n
  rw [h.mem_bares, h'.mem_bares, hsame]

theorem exists_of_mem_rows (h : g.Owned) {r : NodeRow} (hr : r ∈ g.rows) :
    ∃ n, g.bare? r.id = some n ∧ NodeRow.ofNode? n = .ok r := by
  rw [rows_eq, List.mem_filterMap] at hr
  obtain ⟨n, hn, hrow⟩ := hr
  cases hok : NodeRow.ofNode? n with
  | error f =>
    rw [hok] at hrow
    cases hrow
  | ok r' =>
    rw [hok] at hrow
    obtain rfl : r' = r := Option.some.inj hrow
    refine ⟨n, ?_, hok⟩
    rw [NodeRow.id_of_ofNode? hok]
    exact h.mem_bares.mp hn

theorem map_id_rows_sublist (h : g.Owned) : (g.rows.map (·.id)).Sublist g.keys := by
  rw [← h.map_id, rows, List.filterMap_map]
  induction g.nodes with
  | nil => exact List.Sublist.slnil
  | cons entry rest ih =>
    rw [List.filterMap_cons, List.map_cons]
    simp only [Function.comp_apply]
    cases hok : NodeRow.ofNode? entry.2 with
    | error f => exact ih.cons _
    | ok r =>
      rw [← NodeRow.id_of_ofNode? hok]
      exact ih.cons_cons _

theorem nodup_map_id_rows (h : g.Owned) : (g.rows.map (·.id)).Nodup :=
  h.map_id_rows_sublist.nodup h.distinct

end Owned

end Graph

namespace Store

/-- Nodes that are stored all have rows, and these are the rows that are stored. -/
theorem storeRows_eq_ok {ns : List Node} {taken : List String} {rows : List NodeRow}
    (h : storeRows taken ns = .ok rows) : ns.map NodeRow.ofNode? = rows.map .ok := by
  induction ns generalizing taken rows with
  | nil =>
    obtain rfl := Except.ok.inj h
    rfl
  | cons n rest ih =>
    rw [storeRows] at h
    cases hn : NodeRow.ofNode? n with
    | error f =>
      rw [hn] at h
      cases h
    | ok r =>
      -- with or without an identifier, the row of the node comes first and the others follow
      have hrest : ∃ taken', (storeRows taken' rest).map (r :: ·) = .ok rows := by
        rw [hn] at h
        simp only at h
        split at h
        · exact ⟨_, h⟩
        · split at h
          · cases h
          · exact ⟨_, h⟩
      obtain ⟨taken', hmap⟩ := hrest
      cases hstored : storeRows taken' rest with
      | error f =>
        rw [hstored] at hmap
        cases hmap
      | ok rows' =>
        rw [hstored] at hmap
        obtain rfl := Except.ok.inj hmap
        rw [List.map_cons, List.map_cons, hn, ih hstored]

/-- Every row that is stored is the row of a node. -/
theorem exists_of_mem_storeRows {ns : List Node} {taken : List String} {rows : List NodeRow}
    (h : storeRows taken ns = .ok rows) {r : NodeRow} (hr : r ∈ rows) : ∃ n ∈ ns, NodeRow.ofNode? n = .ok r := by
  have hm : (Except.ok r : Except Failure NodeRow) ∈ rows.map .ok := List.mem_map_of_mem hr
  rw [← storeRows_eq_ok h] at hm
  exact List.mem_map.mp hm

theorem rows_of_storeRows {g : Graph} {rows : List NodeRow} (h : storeRows [] (g.nodes.map (·.2)) = .ok rows) :
    rows = g.rows := by
  have hrows := storeRows_eq_ok h
  have hmap : g.rows = ((g.nodes.map (·.2)).map NodeRow.ofNode?).filterMap Except.toOption := by
    rw [List.filterMap_map]
    rfl
  rw [hmap, hrows, List.filterMap_map]
  change rows = rows.filterMap some
  rw [List.filterMap_some]

/-! ## Owned tables -/

variable {R : Type}

/-- The identifiers of rows with a path belong to the path. -/
def Tables.Owned (t : Tables R) : Prop :=
  ∀ r ∈ t.nodes, ∀ path, r.filePath = some path → Owns path r.id

/-- **The rows of an owned graph are owned.** -/
theorem Tables.owned_of_nodes_eq {g : Graph} (h : g.Owned) {t : Tables R} (ht : t.nodes = g.rows) : t.Owned := by
  intro r hr path hpath
  rw [ht] at hr
  obtain ⟨n, hn, hok⟩ := h.exists_of_mem_rows hr
  exact (h.of_bare? hn).2 path ((NodeRow.filePath_of_ofNode? hok).symm.trans hpath)

/-- **The graph that is loaded from owned tables is owned.** -/
theorem Tables.Owned.graph {t : Tables R} (h : t.Owned) : t.graph.Owned := by
  -- the nodes are put one by one, and then get their children
  have hbare : ∀ (rows : List NodeRow) (g : Graph), (∀ r ∈ rows, r ∈ t.nodes) → g.Owned →
      (rows.foldl (fun g r => g.put r.id (r.toNode [])) g).Owned := by
    intro rows
    induction rows with
    | nil => exact fun g _ hg => hg
    | cons r rest ih =>
      intro g hrows hg
      refine ih _ (fun r' hr' => hrows r' (List.mem_cons_of_mem _ hr')) (hg.put ⟨rfl, fun path hpath => ?_⟩)
      exact h r (hrows r List.mem_cons_self) path hpath
  have hput := hbare t.nodes Graph.empty (fun _ hr => hr) Graph.owned_empty
  constructor
  · have hkeys : t.graph.keys = (t.nodes.foldl (fun g r => g.put r.id (r.toNode [])) Graph.empty).keys := by
      rw [Tables.graph, Graph.keys, List.map_map]
      rfl
    rw [hkeys]
    exact hput.distinct
  · intro k n hm
    rw [Tables.graph] at hm
    obtain ⟨⟨k', n'⟩, hm', heq⟩ := List.mem_map.mp hm
    obtain ⟨rfl, rfl⟩ := Prod.mk.inj heq
    have hnode : n'.Owned k' := hput.each hm'
    exact hnode

end Store

end CodeAtlas
