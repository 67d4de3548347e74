import Mathlib
import CodeAtlas.Proofs.Graph.Rows
import CodeAtlas.Proofs.Store.Transaction

/-!
# What is saved and loaded

A tidy graph is saved without failure, the table of nodes then holds its rows, and the graph that is loaded from the
table has the same rows. So saving and loading can be left out of the account of what a command does to the rows. The
table of files is known by the digest that it gives for each path.

## Main definitions

* `Graph.rows`: the rows of a graph, in its order
* `Tables.Tidy`: tables of nodes that come from tidy graphs
* `Tables.putDigests`: the tables with the digests of several files

## Main results

* `Connection.saveGraph_of_tidy`: a tidy graph is saved
* `Tables.row?_of_nodes_eq`: the table of nodes holds the rows of the saved graph
* `Tables.Tidy.graph`, `Tables.Tidy.row_graph`: the loaded graph is tidy, and its rows are those of the table
* `Tables.digest?_putDigests_of_mem`, `Tables.digest?_dropFiles`: the digests after a change of the table of files
-/

namespace CodeAtlas

open Store

/-! ## Saving -/

namespace Graph

/-- The rows of a graph, in its order. -/
def rows (g : Graph) : List NodeRow :=
  (g.nodes.map (·.2)).filterMap fun n => (NodeRow.ofNode? n).toOption

variable {g : Graph}

theorem Tidy.mem_rows (h : g.Tidy) {r : NodeRow} : r ∈ g.rows ↔ g.row r.id = some r := by
  rw [rows, List.mem_filterMap]
  constructor
  · rintro ⟨n, hn, hr⟩
    obtain ⟨⟨k, n⟩, hm, rfl⟩ := List.mem_map.mp hn
    obtain ⟨r', hrow, hok, -, hid, -⟩ := h.row_of_find? (find?_of_mem h.distinct hm)
    rw [hok] at hr
    obtain rfl : r' = r := Option.some.inj hr
    rw [hid, hrow]
  · intro hr
    obtain ⟨n, hn, hok, -⟩ := h.find?_of_row hr
    exact ⟨n, List.mem_map.mpr ⟨(r.id, n), mem_of_find? hn, rfl⟩, by rw [hok]; rfl⟩

theorem Tidy.map_id_rows (h : g.Tidy) : g.rows.map (·.id) = g.keys := by
  obtain ⟨nodes⟩ := g
  rw [rows, keys]
  replace h : ∀ {k n}, (k, n) ∈ nodes → n.Storable k := h.storable
  induction nodes with
  | nil => rfl
  | cons entry rest ih =>
    obtain ⟨k, n⟩ := entry
    obtain ⟨hid, -, r, hr, -⟩ := h List.mem_cons_self
    rw [List.map_cons, List.filterMap_cons_some (by rw [hr]; rfl), List.map_cons, List.map_cons,
      ih fun hm => h (List.mem_cons_of_mem _ hm), NodeRow.id_of_ofNode? hr, hid]

end Graph

namespace Store

/-- Nodes with rows and different identifiers are stored, in their order. -/
theorem storeRows_eq {ns : List Node} {taken : List String} (hrows : ∀ n ∈ ns, ∃ r, NodeRow.ofNode? n = .ok r)
    (hids : (ns.map (·.id)).Nodup) (hfree : ∀ n ∈ ns, ∀ id, n.id = some id → id ∉ taken) :
    storeRows taken ns = .ok (ns.filterMap fun n => (NodeRow.ofNode? n).toOption) := by
  induction ns generalizing taken with
  | nil => rfl
  | cons n rest ih =>
    obtain ⟨r, hr⟩ := hrows n List.mem_cons_self
    rw [List.map_cons, List.nodup_cons] at hids
    have hrest : ∀ m ∈ rest, ∃ r, NodeRow.ofNode? m = .ok r := fun m hm => hrows m (List.mem_cons_of_mem _ hm)
    have hid := NodeRow.id_of_ofNode? hr
    rw [List.filterMap_cons_some (by rw [hr]; rfl), storeRows, hr]
    cases hn : r.id with
    | none =>
      have hrows := ih hrest hids.2 fun m hm => hfree m (List.mem_cons_of_mem _ hm)
      simp only [hn, hrows]
      rfl
    | some id =>
      rw [hn] at hid
      have htaken : taken.contains id = false := by
        simpa using hfree n List.mem_cons_self id hid.symm
      -- the identifier is taken from here on, and no later node has it
      have hlater : ∀ m ∈ rest, ∀ id', m.id = some id' → id' ∉ id :: taken := by
        intro m hm id' hid'
        rw [List.mem_cons, not_or]
        refine ⟨?_, hfree m (List.mem_cons_of_mem _ hm) id' hid'⟩
        rintro rfl
        exact hids.1 (List.mem_map.mpr ⟨m, hm, hid'.trans hid⟩)
      simp only [hn, htaken, ih hrest hids.2 hlater]
      rfl

variable {R : Type}

theorem storeRows_of_tidy {g : Graph} (h : g.Tidy) : storeRows [] (g.nodes.map (·.2)) = .ok g.rows := by
  refine storeRows_eq ?_ ?_ (by simp)
  · intro n hn
    obtain ⟨⟨k, n⟩, hm, rfl⟩ := List.mem_map.mp hn
    obtain ⟨-, -, r, hr, -⟩ := h.storable hm
    exact ⟨r, hr⟩
  · have hkeys : (g.nodes.map (·.2)).map (·.id) = g.keys := by
      rw [List.map_map]
      exact List.map_congr_left fun ⟨k, n⟩ hm => (h.storable hm).1
    rw [hkeys]
    exact h.distinct

/-- **A tidy graph is saved**, if the connection is open and has no transaction. -/
theorem Connection.saveGraph_of_tidy {g : Graph} (h : g.Tidy) {c : Connection R} (hopen : c.isOpen = true)
    (hpending : c.pending = none) :
    c.saveGraph g = (.ok (), { c with committed := c.committed.withNodes g.rows }) := by
  rw [saveGraph_eq, if_pos hopen, hpending]
  simp only
  rw [storeRows_of_tidy h]

theorem Connection.ask_of_isOpen {α : Type} {c : Connection R} (hopen : c.isOpen = true) (question : Tables R → α) :
    c.ask question = .ok (question c.view) := by
  rw [ask, if_pos hopen]

/-- A save that succeeds puts the rows of the graph in place of all rows, and no transaction was or is open. -/
theorem Connection.eq_withNodes_of_saveGraph {c c' : Connection R} {g : Graph} (h : c.saveGraph g = (.ok (), c')) :
    ∃ rows, storeRows [] (g.nodes.map (·.2)) = .ok rows ∧ c.isOpen = true ∧ c.pending = none ∧
      c' = { c with committed := c.committed.withNodes rows } := by
  rw [saveGraph_eq] at h
  split at h
  · next hopen =>
    split at h
    · cases (Prod.mk.inj h).1
    · next hpending =>
      split at h
      · next rows hrows =>
        obtain ⟨-, rfl⟩ := Prod.mk.inj h
        exact ⟨rows, hrows, hopen, hpending, rfl⟩
      · cases (Prod.mk.inj h).1
  · cases (Prod.mk.inj h).1

/-- What is seen after a save that succeeds. -/
theorem Connection.eq_of_saveGraph {c c' : Connection R} {g : Graph} (h : c.saveGraph g = (.ok (), c')) :
    ∃ rows, storeRows [] (g.nodes.map (·.2)) = .ok rows ∧ c'.view = c.committed.withNodes rows ∧ c'.isOpen = true := by
  obtain ⟨rows, hrows, hopen, hpending, rfl⟩ := eq_withNodes_of_saveGraph h
  exact ⟨rows, hrows, view_of_pending_eq_none hpending, hopen⟩

/-! ## Tables of nodes -/

/-- A table of nodes that comes from a tidy graph. -/
structure Tables.Tidy (t : Tables R) : Prop where
  distinct : (t.nodes.map (·.id)).Nodup
  present : ∀ r ∈ t.nodes, r.id.isSome = true
  stable : ∀ r ∈ t.nodes, r.Stable

namespace Tables

variable {t : Tables R}

/-- Among rows with different identifiers, the first with an identifier is the only one. -/
theorem find?_id_eq_some_iff {rows : List NodeRow} (h : (rows.map (·.id)).Nodup) {id : String} {r : NodeRow} :
    rows.find? (·.id == some id) = some r ↔ r ∈ rows ∧ r.id = some id := by
  induction rows with
  | nil => simp
  | cons first rest ih =>
    obtain ⟨hfirst, hrest⟩ := List.nodup_cons.mp h
    by_cases hid : first.id = some id
    · rw [List.find?_cons_of_pos (by simp [hid]), Option.some_inj]
      constructor
      · rintro rfl
        exact ⟨List.mem_cons_self, hid⟩
      · rintro ⟨hr, hrid⟩
        rcases List.mem_cons.mp hr with rfl | hr
        · rfl
        · exact absurd (List.mem_map.mpr ⟨r, hr, hrid.trans hid.symm⟩) hfirst
    · rw [List.find?_cons_of_neg (by simpa using hid), ih hrest, List.mem_cons]
      constructor
      · rintro ⟨hr, hrid⟩
        exact ⟨Or.inr hr, hrid⟩
      · rintro ⟨rfl | hr, hrid⟩
        · exact absurd hrid hid
        · exact ⟨hr, hrid⟩

theorem Tidy.row?_eq_some_iff (h : t.Tidy) {k : NodeId} {r : NodeRow} :
    t.row? k = some r ↔ r ∈ t.nodes ∧ r.id = k := by
  cases k with
  | none =>
    simp only [row?, reduceCtorEq, false_iff]
    rintro ⟨hr, hid⟩
    exact absurd (h.present r hr) (by simp [hid])
  | some id => exact find?_id_eq_some_iff h.distinct

theorem Tidy.mem_nodes (h : t.Tidy) {r : NodeRow} : r ∈ t.nodes ↔ t.row? r.id = some r := by
  rw [h.row?_eq_some_iff]
  simp

theorem Tidy.nodup (h : t.Tidy) : t.nodes.Nodup :=
  .of_map _ h.distinct

theorem tidy_of_nodes_eq {g : Graph} (h : g.Tidy) (ht : t.nodes = g.rows) : t.Tidy := by
  refine ⟨by rw [ht, h.map_id_rows]; exact h.distinct, fun r hr => ?_, fun r hr => ?_⟩ <;>
    obtain ⟨n, -, -, hs, -, -, hsome⟩ := h.find?_of_row (h.mem_rows.mp (ht ▸ hr))
  · exact hsome
  · exact hs

/-- **The table of nodes holds the rows of the saved graph.** -/
theorem row?_of_nodes_eq {g : Graph} (h : g.Tidy) (ht : t.nodes = g.rows) (k : NodeId) : t.row? k = g.row k := by
  have htidy := tidy_of_nodes_eq h ht
  refine Option.ext fun r => ?_
  rw [htidy.row?_eq_some_iff, ht, h.mem_rows]
  constructor
  · rintro ⟨hr, rfl⟩
    exact hr
  · intro hr
    obtain ⟨-, -, -, -, hid, -⟩ := h.find?_of_row hr
    exact ⟨by rw [hid]; exact hr, hid⟩

/-! ## Loading -/

theorem putNode_of_not_mem {nodes : List (NodeId × Node)} {key : NodeId} (h : key ∉ nodes.map Prod.fst) (n : Node) :
    Graph.putNode key n nodes = nodes ++ [(key, n)] := by
  induction nodes with
  | nil => rfl
  | cons entry rest ih =>
    rw [List.map_cons, List.mem_cons, not_or] at h
    rw [Graph.putNode, if_neg (Ne.symm h.1), ih h.2, List.cons_append]

theorem foldl_put_nodes {rows : List NodeRow} {g : Graph} (h : (g.keys ++ rows.map (·.id)).Nodup) :
    (rows.foldl (fun g r => g.put r.id (r.toNode [])) g).nodes =
      g.nodes ++ rows.map fun r => (r.id, r.toNode []) := by
  induction rows generalizing g with
  | nil => simp
  | cons r rest ih =>
    have hput : (g.put r.id (r.toNode [])).nodes = g.nodes ++ [(r.id, r.toNode [])] :=
      putNode_of_not_mem (fun hm => List.disjoint_of_nodup_append h hm List.mem_cons_self) _
    have hkeys : ((g.put r.id (r.toNode [])).keys ++ rest.map (·.id)).Nodup := by
      rw [Graph.keys, hput]
      simpa [Graph.keys] using h
    rw [List.foldl_cons, ih hkeys, hput]
    simp

/-- The children that a node gets when the graph is loaded. -/
def loadedChildren (t : Tables R) (key : NodeId) : List NodeId :=
  (t.nodes.filter fun s => (s.toNode []).parent?.isSome && (s.toNode []).parent? == key).map (·.id)

theorem nodes_graph (h : (t.nodes.map (·.id)).Nodup) :
    t.graph.nodes = t.nodes.map fun r => (r.id, r.toNode (t.loadedChildren r.id)) := by
  have hkeys : (Graph.empty.keys ++ t.nodes.map (·.id)).Nodup := by
    simpa [Graph.empty, Graph.keys] using h
  have hbare := foldl_put_nodes hkeys
  rw [graph, hbare]
  simp only [Graph.empty, List.nil_append, List.map_map, List.filter_map]
  exact List.map_congr_left fun r _ => rfl

theorem keys_graph (h : (t.nodes.map (·.id)).Nodup) : t.graph.keys = t.nodes.map (·.id) := by
  rw [Graph.keys, nodes_graph h, List.map_map]
  rfl

/-- The loaded graph has one node for each row. -/
theorem find?_graph_iff (h : (t.nodes.map (·.id)).Nodup) {k : NodeId} {n : Node} :
    t.graph.find? k = some n ↔ ∃ r ∈ t.nodes, r.id = k ∧ n = r.toNode (t.loadedChildren k) := by
  constructor
  · intro hn
    have hm := Graph.mem_of_find? hn
    rw [nodes_graph h] at hm
    obtain ⟨r, hr, heq⟩ := List.mem_map.mp hm
    obtain ⟨rfl, rfl⟩ := Prod.mk.inj heq
    exact ⟨r, hr, rfl, rfl⟩
  · rintro ⟨r, hr, rfl, rfl⟩
    refine Graph.find?_of_mem (by rw [keys_graph h]; exact h) ?_
    rw [nodes_graph h]
    exact List.mem_map.mpr ⟨r, hr, rfl⟩

/-- **The loaded graph is tidy.** -/
theorem Tidy.graph (h : t.Tidy) : t.graph.Tidy := by
  refine .of_find? (by rw [keys_graph h.distinct]; exact h.distinct) fun k n hn => ?_
  obtain ⟨r, hr, rfl, rfl⟩ := (find?_graph_iff h.distinct).mp hn
  exact ⟨rfl, h.present r hr, r, h.stable r hr, h.stable r hr⟩

/-- **The rows of the loaded graph are those of the table.** -/
theorem Tidy.row_graph (h : t.Tidy) (k : NodeId) : t.graph.row k = t.row? k := by
  refine Option.ext fun r => ?_
  rw [h.row?_eq_some_iff]
  constructor
  · intro hr
    obtain ⟨n, hn, hok, -⟩ := h.graph.find?_of_row hr
    obtain ⟨r', hr', rfl, rfl⟩ := (find?_graph_iff h.distinct).mp hn
    have hst : NodeRow.ofNode? (r'.toNode (t.loadedChildren r'.id)) = .ok r' := h.stable r' hr'
    obtain rfl := Except.ok.inj (hst.symm.trans hok)
    exact ⟨hr', rfl⟩
  · rintro ⟨hr, rfl⟩
    have hst : NodeRow.ofNode? (r.toNode (t.loadedChildren r.id)) = .ok r := h.stable r hr
    rw [Graph.row, (find?_graph_iff h.distinct).mpr ⟨r, hr, rfl, rfl⟩, Option.bind_some, hst]
    rfl

/-! ## The table of files -/

theorem lookup_putLast {V : Type} (key : String) (value : V) (table : List (String × V)) (k : String) :
    (putLast key value table).lookup k = if k = key then some value else table.lookup k := by
  induction table with
  | nil =>
    by_cases hk : k = key
    · simp [putLast, hk]
    · simp [putLast, hk]
  | cons entry rest ih =>
    obtain ⟨other, v⟩ := entry
    rw [putLast] at ih ⊢
    by_cases hother : other = key
    · rw [List.filter_cons_of_neg (by simp [hother]), ih]
      split
      · rfl
      · next hk => rw [List.lookup_cons, hother, beq_eq_false_iff_ne.mpr hk]
    · rw [List.filter_cons_of_pos (by simpa using hother), List.cons_append, List.lookup_cons, List.lookup_cons, ih]
      by_cases hk : k = other
      · subst hk
        simp [hother]
      · simp [beq_eq_false_iff_ne.mpr hk]

/-- The tables with the digests of several files. -/
def putDigests (t : Tables R) (digests : List (String × String)) : Tables R :=
  digests.foldl (fun t (path, digest) => t.putDigest path digest) t

theorem putDigests_eq (t : Tables R) (digests : List (String × String)) :
    t.putDigests digests = { t with files := (t.putDigests digests).files } := by
  induction digests generalizing t with
  | nil => rfl
  | cons entry rest ih =>
    rw [putDigests, List.foldl_cons]
    exact ih _

theorem digest?_putDigests_of_not_mem {digests : List (String × String)} {path : String}
    (h : ∀ digest, (path, digest) ∉ digests) (t : Tables R) : (t.putDigests digests).digest? path = t.digest? path := by
  induction digests generalizing t with
  | nil => rfl
  | cons entry rest ih =>
    obtain ⟨other, digest⟩ := entry
    have hne : path ≠ other := by
      rintro rfl
      exact h digest List.mem_cons_self
    rw [putDigests, List.foldl_cons]
    refine (ih (fun d hd => h d (List.mem_cons_of_mem _ hd)) _).trans ?_
    exact (lookup_putLast other digest t.files path).trans (if_neg hne)

/-- The digest of a file after the digests of several files were put, if there is only one among them. -/
theorem digest?_putDigests_of_mem {digests : List (String × String)} {path digest : String}
    (hm : (path, digest) ∈ digests) (honly : ∀ d, (path, d) ∈ digests → d = digest) (t : Tables R) :
    (t.putDigests digests).digest? path = some digest := by
  induction digests generalizing t with
  | nil => cases hm
  | cons entry rest ih =>
    rw [putDigests, List.foldl_cons]
    by_cases hlater : (path, digest) ∈ rest
    · exact ih hlater (fun d hd => honly d (List.mem_cons_of_mem _ hd)) _
    · obtain rfl := (List.mem_cons.mp hm).resolve_right hlater
      refine (digest?_putDigests_of_not_mem (fun d hd => ?_) _).trans ?_
      · rw [honly d (List.mem_cons_of_mem _ hd)] at hd
        exact hlater hd
      · exact (lookup_putLast path digest t.files path).trans (if_pos rfl)

theorem mem_map_files {path : String} : path ∈ t.files.map (·.1) ↔ (t.digest? path).isSome = true := by
  simp only [digest?, List.lookup_isSome_iff, List.mem_map, beq_iff_eq]
  constructor
  · rintro ⟨entry, hm, heq⟩
    exact ⟨entry, hm, heq.symm⟩
  · rintro ⟨entry, hm, heq⟩
    exact ⟨entry, hm, heq.symm⟩

theorem digest?_dropFiles (t : Tables R) (paths : List String) (path : String) :
    (t.dropFiles paths).digest? path = if path ∈ paths then none else t.digest? path := by
  change (t.files.filter fun entry => !paths.contains entry.1).lookup path =
    if path ∈ paths then none else t.files.lookup path
  induction t.files with
  | nil => simp
  | cons entry rest ih =>
    obtain ⟨other, digest⟩ := entry
    by_cases hother : other ∈ paths
    · rw [List.filter_cons_of_neg (by simpa using hother), ih]
      split
      · rfl
      · next hpath =>
        have hne : path ≠ other := by
          rintro rfl
          exact hpath hother
        rw [List.lookup_cons, beq_eq_false_iff_ne.mpr hne]
    · rw [List.filter_cons_of_pos (by simpa using hother), List.lookup_cons, List.lookup_cons, ih]
      by_cases hpath : path = other
      · subst hpath
        simp [hother]
      · rw [beq_eq_false_iff_ne.mpr hpath]

end Tables

theorem Tables.dropFiles_nil (t : Tables R) : t.dropFiles [] = t := by
  have hnodes : (t.dropFiles []).nodes = t.nodes := by
    refine List.filter_eq_self.mpr fun r _ => ?_
    cases r.filePath <;> cases r.id <;> rfl
  have hfiles : (t.dropFiles []).files = t.files := List.filter_eq_self.mpr fun _ _ => rfl
  rw [show t.dropFiles [] = { t with nodes := (t.dropFiles []).nodes, files := (t.dropFiles []).files } from rfl,
    hnodes, hfiles]

theorem Connection.deleteFiles_eq (limits : Limits) (t : Tables R) (paths : List String) :
    ({ committed := t, limits } : Connection R).deleteFiles paths false =
      if limits.maxVariables < 2 * paths.length then (.error .tooManyVariables, { committed := t, limits })
      else (.ok (), { committed := t.dropFiles paths, limits }) := by
  by_cases hpaths : paths = []
  · subst hpaths
    rw [Tables.dropFiles_nil]
    rfl
  · have hempty : paths.isEmpty = false := by simpa [List.isEmpty_iff] using hpaths
    simp only [deleteFiles_eq_ite, hempty, Bool.false_eq_true, if_false, if_true]

theorem Connection.saveDigests_eq {c : Connection R} (hopen : c.isOpen = true) (hpending : c.pending = none)
    (digests : List (String × String)) :
    c.saveDigests digests = (.ok (), { c with committed := c.committed.putDigests digests }) := by
  obtain ⟨committed, pending, isOpen, limits⟩ := c
  simp only at hopen hpending
  subst hopen hpending
  cases digests with
  | nil => rfl
  | cons entry rest => rfl

end Store

end CodeAtlas
