import Mathlib
import CodeAtlas.Proofs.Search.Relevance
import CodeAtlas.Proofs.Store.Readers

/-!
# Lists of names that are read back

Whoever reads a node reads the columns of its row. This holds of all questions about the tables, and also of searches,
as long as the answer is not one that the engine has remembered since before the graph was saved. No operation of a search
engine touches the table of nodes, so what the engine remembers later on comes from the same rows. Hence the lists of
names of a node come back exactly if they survive being joined by commas, whichever way the node is read.

Saving a graph does not make an engine forget. A search that has found something is answered the same way ever after,
with the lists of names as they were at the time of the first answer.

## Main definitions

* `Tables.IsRead`: nodes that were read from some rows
* `Session.ReadsFrom`: an engine remembers what was read from some rows, or else some older searches
* `Node.ReadBack`: the lists of names of a node come back exactly if they are separable

## Main results

* `Tables.isRead_of_mem_children`, `Tables.isRead_of_mem_subclasses`, `isRead_of_mem_find`: what is read comes from rows
* `Session.ReadsFrom.run`: all operations of an engine leave it reading from the same rows
* `Session.search_again`: a search that has found something is answered from memory, whatever happens to the tables
* `names_read_back_iff`: the lists of names of a node come back exactly if they are separable
* `not_readBack_of_remembered`: a remembered answer has the names of a node that is not saved any more
-/

namespace CodeAtlas

open Store Search

namespace Store.Tables

variable {R : Type} {t : Tables R}

/-! ## What is read from the tables -/

/-- A node that was read from one of some rows, with whatever children. -/
def IsRead (rows : List NodeRow) (n : Node) : Prop :=
  ∃ r ∈ rows, ∃ children, n = r.toNode children

theorem mem_of_mem_firstOfEach {rows : List NodeRow} {r : NodeRow} (h : r ∈ firstOfEach rows) : r ∈ rows := by
  -- on the number of rows: after the first row, those with another identifier are left
  induction hlength : rows.length using Nat.strong_induction_on generalizing rows with
  | _ n ih =>
    cases rows with
    | nil => exact h
    | cons first rest =>
      rw [firstOfEach, List.eraseDupsBy_cons] at h
      rcases List.mem_cons.mp h with rfl | h
      · exact List.mem_cons_self
      · have hfewer : (rest.filter fun s => (s.id == first.id) = false).length < n := by
          rw [← hlength, List.length_cons]
          exact Nat.lt_succ_of_le (List.length_filter_le _ _)
        exact List.mem_cons_of_mem _ (List.mem_of_mem_filter (ih _ hfewer h rfl))

theorem mem_of_row?_eq_some {k : NodeId} {r : NodeRow} (h : t.row? k = some r) : r ∈ t.nodes := by
  cases k with
  | none => cases h
  | some id => exact List.mem_of_find?_eq_some h

theorem isRead_of_mem_children {k : NodeId} {n : Node} (h : n ∈ t.children k) : IsRead t.nodes n := by
  obtain ⟨r, hr, rfl⟩ := List.mem_map.mp h
  rw [List.mem_mergeSort] at hr
  exact ⟨r, (mem_below_iff.mp (mem_of_mem_firstOfEach hr)).1, _, rfl⟩

theorem isRead_of_mem_subclasses {v : String} {n : Node} (h : n ∈ t.subclasses v) : IsRead t.nodes n := by
  obtain ⟨r, hr, rfl⟩ := List.mem_map.mp h
  exact ⟨r, List.mem_of_mem_filter hr, _, rfl⟩

/-- The nodes are put into the graph one by one, and no other row takes the place of a row with its identifier. -/
theorem find?_foldl_put {r : NodeRow} {rows : List NodeRow} (honly : ∀ s ∈ rows, s.id = r.id → s = r) {g : Graph}
    (h : r ∈ rows ∨ g.find? r.id = some (r.toNode [])) :
    (rows.foldl (fun g r => g.put r.id (r.toNode [])) g).find? r.id = some (r.toNode []) := by
  induction rows generalizing g with
  | nil => exact h.resolve_left List.not_mem_nil
  | cons s rest ih =>
    have hrest : ∀ s' ∈ rest, s'.id = r.id → s' = r := fun s' hs' => honly s' (List.mem_cons_of_mem _ hs')
    rw [List.foldl_cons]
    by_cases hid : s.id = r.id
    · obtain rfl := honly s List.mem_cons_self hid
      exact ih hrest (Or.inr (by rw [Graph.find?_put, if_pos rfl]))
    · refine ih hrest ?_
      rcases h with h | h
      · rcases List.mem_cons.mp h with rfl | h
        · exact absurd rfl hid
        · exact Or.inl h
      · exact Or.inr (by rw [Graph.find?_put, if_neg (Ne.symm hid), h])

theorem find?_map_nodes (nodes : List (NodeId × Node)) (f : NodeId → Node → Node) (k : NodeId) :
    Graph.find? ⟨nodes.map fun entry => (entry.1, f entry.1 entry.2)⟩ k = (Graph.find? ⟨nodes⟩ k).map (f k) := by
  rw [Graph.find?_mk, Graph.find?_mk]
  induction nodes with
  | nil => rfl
  | cons entry rest ih =>
    rw [List.map_cons, List.lookup_cons, List.lookup_cons, ih]
    by_cases hk : k = entry.1
    · subst hk
      simp
    · simp [beq_eq_false_iff_ne.mpr hk]

/-- There is one row with an identifier. -/
theorem Keyed.eq_of_id_eq (h : t.Keyed) {r s : NodeRow} (hr : r ∈ t.nodes) (hid : r.id.isSome = true)
    (hs : s ∈ t.nodes) (hsame : s.id = r.id) : s = r := by
  have hfound := h.row?_eq_some hs (hsame ▸ hid)
  rw [hsame, h.row?_eq_some hr hid] at hfound
  exact (Option.some.inj hfound).symm

/-- **A row with an identifier is a node of the loaded graph.** -/
theorem Keyed.exists_find?_graph (h : t.Keyed) {r : NodeRow} (hr : r ∈ t.nodes) (hid : r.id.isSome = true) :
    ∃ children, t.graph.find? r.id = some (r.toNode children) := by
  have hbare := find?_foldl_put (g := Graph.empty) (fun s hs => h.eq_of_id_eq hr hid hs) (Or.inl hr)
  -- the graph is the bare one with children at each node, which are looked for among its own nodes
  have hgraph := find?_map_nodes (t.nodes.foldl (fun g r => g.put r.id (r.toNode [])) Graph.empty).nodes
    (fun key n => { n with children := ((t.nodes.foldl (fun g r => g.put r.id (r.toNode [])) Graph.empty).nodes.filter
      fun m => m.2.parent?.isSome && m.2.parent? == key).map (·.2.id) }) r.id
  exact ⟨_, hgraph.trans (congrArg _ hbare)⟩

end Store.Tables

/-! ## What a search reads -/

namespace Search

variable {R : Type} [Scalar R]

/-- What is found in the tables was read from rows. -/
theorem isRead_of_mem_find {c : Connection R} {known : List (String × R)} {terms : List String} {limit : Int}
    {found : List (Node × R)} (h : find c known terms limit = .ok found) {x : Node × R} (hx : x ∈ found) :
    Tables.IsRead c.view.nodes x.1 := by
  rw [eq_of_find_eq_ok h] at hx
  obtain ⟨entry, -, hentry⟩ := List.mem_filterMap.mp hx
  obtain ⟨r, hr, rfl⟩ := Option.map_eq_some_iff.mp hentry
  exact ⟨r, Tables.mem_of_row?_eq_some hr, [], rfl⟩

theorem nodes_indexedTables (ids : List NodeId) (documents : List Document) (values : List (String × R))
    (t : Tables R) : (Session.indexedTables ids documents values t).nodes = t.nodes := by
  have hlearnt := congrArg Tables.nodes (Tables.foldl_putRarity_eq values (t.dropTerms ids))
  exact hlearnt

namespace Session

variable {rows : List NodeRow} {older : List (String × List (Node × R))} {s : Session R}

/-- The table of nodes has some rows, and an engine remembers what was read from them, or else some older searches. -/
structure ReadsFrom (rows : List NodeRow) (older : List (String × List (Node × R))) (s : Session R) : Prop where
  nodes : s.connection.view.nodes = rows
  results : ∀ entry ∈ s.engine.results, entry ∈ older ∨ ∀ x ∈ entry.2, Tables.IsRead rows x.1

omit [Scalar R] in
theorem readsFrom_of_forgotten (hnodes : s.connection.view.nodes = rows) (hresults : s.engine.results = []) :
    s.ReadsFrom rows older :=
  ⟨hnodes, fun _ hentry => absurd (hresults ▸ hentry) List.not_mem_nil⟩

theorem ReadsFrom.build (h : s.ReadsFrom rows older) : s.build.2.ReadsFrom rows older := by
  by_cases hopen : s.connection.isOpen = true
  · refine readsFrom_of_forgotten ?_ ?_
    · rw [view_build hopen]
      exact h.nodes
    · rw [build_of_isOpen hopen]
  · rw [build_of_closed (Bool.not_eq_true _ ▸ hopen)]
    exact readsFrom_of_forgotten h.nodes rfl

theorem ReadsFrom.update (h : s.ReadsFrom rows older) (ids : List NodeId) (delta : Int) :
    (s.update ids delta).2.ReadsFrom rows older := by
  have hupdated := s.updated ids delta
  generalize s.update ids delta = result at hupdated ⊢
  cases hupdated with
  | nothing => exact h
  | refused => exact readsFrom_of_forgotten h.nodes rfl
  | dropped => exact readsFrom_of_forgotten h.nodes rfl
  | failed => exact readsFrom_of_forgotten h.nodes (counting_results delta)
  | indexed values =>
    exact readsFrom_of_forgotten ((nodes_indexedTables ids _ values _).trans h.nodes) (counting_results delta)

omit [Scalar R] in
theorem ReadsFrom.remove (h : s.ReadsFrom rows older) (ids : List NodeId) : (s.remove ids).2.ReadsFrom rows older := by
  obtain hremoved | ⟨f, hremoved⟩ | hremoved := s.remove_cases ids
  · rw [hremoved]
    exact h
  · rw [hremoved]
    exact readsFrom_of_forgotten h.nodes rfl
  · rw [hremoved]
    exact readsFrom_of_forgotten h.nodes rfl

/-- What a search gives is the answer of an older search or was read from the rows, and the same holds of what is
remembered then. -/
theorem ReadsFrom.search (h : s.ReadsFrom rows older) (query : String) (limit : Int) :
    (∀ found, (s.search query limit).1 = .ok found →
        (searchKey query limit, found) ∈ older ∨ ∀ x ∈ found, Tables.IsRead rows x.1) ∧
      (s.search query limit).2.ReadsFrom rows older := by
  have hfind : ∀ found, find s.connection s.reading.rarity (tokenize query) limit = .ok found →
      ∀ x ∈ found, Tables.IsRead rows x.1 := fun found hfound x hx => h.nodes ▸ isRead_of_mem_find hfound hx
  have hreading : ∀ entry ∈ s.reading.results, entry ∈ older ∨ ∀ x ∈ entry.2, Tables.IsRead rows x.1 :=
    reading_results (s := s) ▸ h.results
  have hsearched := s.searched query limit
  generalize s.search query limit = result at hsearched ⊢
  cases hsearched with
  | remembered found hfound =>
    refine ⟨?_, h⟩
    rintro _ ⟨⟩
    obtain ⟨front, back, hentries, -⟩ := List.lookup_eq_some_iff.mp hfound
    exact h.results (searchKey query limit, found) (by simp [hentries])
  | empty =>
    refine ⟨?_, h⟩
    rintro _ ⟨⟩
    exact Or.inr fun x hx => absurd hx List.not_mem_nil
  | closed =>
    refine ⟨?_, h⟩
    rintro _ ⟨⟩
  | answered =>
    refine ⟨fun found hfound => ?_, h.nodes, hreading⟩
    dsimp only at hfound
    exact Or.inr (hfind found hfound)
  | found found _ _ _ hfound =>
    refine ⟨?_, h.nodes, fun entry hentry => ?_⟩
    · rintro _ ⟨⟩
      exact Or.inr (hfind found hfound)
    · rcases List.mem_append.mp hentry with hentry | hentry
      · exact hreading entry hentry
      · obtain rfl := List.mem_singleton.mp hentry
        exact Or.inr (hfind found hfound)

/-- Every call leaves an engine reading from the same rows. -/
theorem ReadsFrom.after (h : s.ReadsFrom rows older) (call : Call) : (s.after call).ReadsFrom rows older := by
  cases call with
  | build => exact h.build
  | update ids delta => exact h.update ids delta
  | remove ids => exact h.remove ids
  | search query limit => exact (h.search query limit).2

/-- **All calls leave an engine reading from the same rows.** -/
theorem ReadsFrom.run (h : s.ReadsFrom rows older) (calls : List Call) : (s.run calls).ReadsFrom rows older := by
  induction calls generalizing s with
  | nil => exact h
  | cons call rest ih => exact ih (h.after call)

/-- **A search that has found something is answered from memory** ever after, whatever happens to the tables. -/
theorem search_again {query : String} {limit : Int} {found : List (Node × R)}
    (hfound : (s.search query limit).1 = .ok found) (hne : found ≠ []) (c : Connection R) :
    (({ (s.search query limit).2 with connection := c } : Session R).search query limit).1 = .ok found := by
  have hremembered : (s.search query limit).2.engine.results.lookup (searchKey query limit) = some found := by
    have hsearched := s.searched query limit
    generalize s.search query limit = result at hsearched hfound ⊢
    -- an answer that is not empty was remembered before, or it is remembered now
    cases hsearched with
    | remembered now hnow =>
      obtain rfl := Except.ok.inj hfound
      exact hnow
    | empty => exact absurd (Except.ok.inj hfound).symm hne
    | closed => cases hfound
    | answered _ _ _ hnothing =>
      dsimp only at hfound
      exact absurd (hnothing found hfound) hne
    | found now hnew =>
      obtain rfl := Except.ok.inj hfound
      dsimp only
      rw [reading_results, List.lookup_append, hnew]
      simp
  rw [search]
  dsimp only
  rw [hremembered]

end Session

end Search

/-! ## The lists of names of a saved node -/

/-- Another node has the lists of names of a node, each of them exactly if it is separable. -/
def Node.ReadBack (n m : Node) : Prop :=
  (m.calls = n.calls ↔ Separable n.calls) ∧ (m.bases = n.bases ↔ Separable n.bases)

theorem Store.NodeRow.Holds.readBack {n : Node} {r : NodeRow} (h : r.Holds n) (children : List NodeId) :
    n.ReadBack (r.toNode children) := by
  have hcalls : (r.toNode children).calls = splitNames (joinNames n.calls) := congrArg splitNames h.calls
  have hbases : (r.toNode children).bases = splitNames (joinNames n.bases) := congrArg splitNames h.bases
  rw [Node.ReadBack, hcalls, hbases]
  exact ⟨splitNames_joinNames_eq_iff, splitNames_joinNames_eq_iff⟩

section

variable {R : Type} {t : Tables R} {g : Graph} {rows : List NodeRow}

theorem Store.Tables.keyed_withNodes (hrows : storeRows [] (g.nodes.map (·.2)) = .ok rows) :
    (t.withNodes rows).Keyed := by
  have hids : rows.filterMap (·.id) = (g.nodes.map (·.2)).filterMap (·.id) := by
    have hmap := congrArg List.reduceOption (map_id_of_storeRows hrows)
    simpa only [List.reduceOption, List.filterMap_map, Function.comp_def, id] using hmap
  change (rows.filterMap (·.id)).Nodup
  rw [hids]
  exact (nodup_of_storeRows hrows).1

theorem Store.exists_row_of_mem (hrows : storeRows [] (g.nodes.map (·.2)) = .ok rows) {key : NodeId} {n : Node}
    (hn : (key, n) ∈ g.nodes) : ∃ r ∈ rows, r.Holds n := by
  have hstored : NodeRow.ofNode? n ∈ rows.map Except.ok :=
    storeRows_eq_ok hrows ▸ List.mem_map_of_mem (List.mem_map_of_mem hn)
  obtain ⟨r, hr, hofNode⟩ := List.mem_map.mp hstored
  exact ⟨r, hr, NodeRow.holds_of_ofNode? hofNode.symm⟩

end

/-- **The lists of names of a saved node come back exactly if they are separable.** A graph has been saved, and one of
its nodes has an identifier. Then the loaded graph has a node under the identifier, and there is one that is read by
itself. Whenever a node with the identifier is among the nodes below a node, among the subclasses of a name, or among
what a search engine on the connection finds after any calls, then it has the names of calls of the saved node if and
only if no such name holds a comma and they are not a single empty name, and likewise for the bases. The engine may be
older than the graph, but it must not remember an answer to the same search from before. -/
theorem names_read_back_iff {R : Type} [Scalar R] {c c' : Connection R} {g : Graph}
    (hsave : c.saveGraph g = (.ok (), c')) {key : NodeId} {n : Node} (hn : (key, n) ∈ g.nodes) {id : String}
    (hid : n.id = some id) :
    (∃ loaded m, c'.ask (·.graph) = .ok loaded ∧ loaded.find? (some id) = some m ∧ n.ReadBack m) ∧
      (∃ m, c'.ask (·.node? (some id)) = .ok (some m) ∧ n.ReadBack m) ∧
      (∀ p, ∃ ms, c'.ask (·.children p) = .ok ms ∧ ∀ m ∈ ms, m.id = some id → n.ReadBack m) ∧
      (∀ name, ∃ ms, c'.ask (·.subclasses name) = .ok ms ∧ ∀ m ∈ ms, m.id = some id → n.ReadBack m) ∧
      ∀ s : Session R, s.connection = c' → ∀ calls query limit found,
        s.engine.results.lookup (searchKey query limit) = none →
          ((s.run calls).search query limit).1 = .ok found → ∀ x ∈ found, x.1.id = some id → n.ReadBack x.1 := by
  obtain ⟨rows, hrows, hview, hopen⟩ := Connection.eq_of_saveGraph hsave
  have hkeyed : c'.view.Keyed := hview ▸ Tables.keyed_withNodes hrows
  have hnodes : c'.view.nodes = rows := by rw [hview]; rfl
  obtain ⟨r, hr, hholds⟩ := exists_row_of_mem hrows hn
  rw [← hnodes] at hr
  have hsome : r.id = some id := hholds.id.trans hid
  have hpresent : r.id.isSome = true := by rw [hsome]; rfl
  have hrow : c'.view.row? (some id) = some r := hsome ▸ hkeyed.row?_eq_some hr hpresent
  -- it is the only row with the identifier, so whatever was read under the identifier was read from it
  have hread : ∀ {m}, Tables.IsRead c'.view.nodes m → m.id = some id → n.ReadBack m := by
    rintro _ ⟨s, hs, children, rfl⟩ hsid
    obtain rfl := hkeyed.eq_of_id_eq hr hpresent hs (hsid.trans hsome.symm)
    exact hholds.readBack children
  have hask := fun {α : Type} (question : Tables R → α) => Connection.ask_of_isOpen hopen question
  refine ⟨?_, ?_, fun p => ⟨_, hask _, fun m hm => hread (Tables.isRead_of_mem_children hm)⟩,
    fun name => ⟨_, hask _, fun m hm => hread (Tables.isRead_of_mem_subclasses hm)⟩, ?_⟩
  · obtain ⟨children, hloaded⟩ := hkeyed.exists_find?_graph hr hpresent
    exact ⟨_, _, hask _, hsome ▸ hloaded, hholds.readBack children⟩
  · have hsingle : c'.view.node? (some id) = some (r.toNode ((c'.view.below (some id)).map (·.id))) := by
      rw [Tables.node?, hrow, Option.map_some]
    exact ⟨_, (hask _).trans (congrArg _ hsingle), hholds.readBack _⟩
  · rintro s rfl calls query limit found hnew hfound x hx
    have hreads : s.ReadsFrom s.connection.view.nodes s.engine.results := ⟨rfl, fun entry hentry => Or.inl hentry⟩
    -- what is remembered from before the graph was saved has other keys
    rcases ((hreads.run calls).search query limit).1 found hfound with holder | hall
    · exact absurd (List.lookup_eq_none_iff.mp hnew _ holder) (by simp)
    · exact hread (hall x hx)

/-- A class calls something with a comma in its name, and has one base. Its calls come back as other ones and its base
as it is, and so does every search find it. -/
theorem names_read_back_of_comma :
    let c' := (Sample.indexedConnection.saveGraph (Sample.classGraph ["A"])).2
    let Read := fun m : Node => m.calls ≠ ["f,g", "h"] ∧ m.bases = ["A"]
    (∃ loaded m, c'.ask (·.graph) = .ok loaded ∧ loaded.find? (some "a.py:A") = some m ∧ Read m) ∧
      (∃ m, c'.ask (·.node? (some "a.py:A")) = .ok (some m) ∧ Read m) ∧
      (∃ m, c'.ask (·.subclasses "A") = .ok [m] ∧ Read m) ∧
      ∀ calls query limit found, ((({ connection := c' } : Session Float).run calls).search query limit).1 = .ok found →
        ∀ x ∈ found, x.1.id = some "a.py:A" → Read x.1 := by
  intro c' Read
  have hsave : Sample.indexedConnection.saveGraph (Sample.classGraph ["A"]) = (.ok (), c') := rfl
  have hmem : (some "a.py:A", Sample.classNode ["A"]) ∈ (Sample.classGraph ["A"]).nodes := List.mem_cons_self
  have hid : (Sample.classNode ["A"]).id = some "a.py:A" := rfl
  obtain ⟨⟨loaded, m, hloaded, hm, hread⟩, ⟨m', hm', hread'⟩, -, hsubclasses, hsearch⟩ :=
    names_read_back_iff hsave hmem hid
  have hof : ∀ {m}, (Sample.classNode ["A"]).ReadBack m → Read m := fun hread =>
    ⟨fun heq => absurd (hread.1.mp heq) (by decide), hread.2.mpr (by decide)⟩
  refine ⟨⟨loaded, m, hloaded, hm, hof hread⟩, ⟨m', hm', hof hread'⟩, ?_, ?_⟩
  · obtain ⟨ms, hms, hall⟩ := hsubclasses "A"
    obtain rfl := Except.ok.inj hms
    exact ⟨_, rfl, hof (hall _ List.mem_cons_self rfl)⟩
  · intro calls query limit found hfound x hx hxid
    exact hof (hsearch _ rfl calls query limit found rfl hfound x hx hxid)

/-- If one row shares a term with a query, then it is found once the index is built. -/
theorem Search.Session.exists_search_build {s : Session ℝ} (hopen : s.connection.isOpen = true)
    (hkeyed : s.connection.view.Keyed) (query : String) {r : NodeRow}
    (hmatching : s.connection.view.matching (tokenize query) = [r]) (hid : r.id.isSome = true)
    (hterms : (tokenize query).length ≤ s.connection.limits.maxVariables) (limit : ℕ) (hlimit : 0 < limit) :
    ∃ x, (s.build.2.search query limit).1 = .ok [(r.toNode [], x)] := by
  have hbuilt := isOpen_build hopen
  -- one row is not too much for any database
  have hresults :
      min limit (s.connection.view.matching (tokenize query)).length ≤ s.connection.limits.maxVariables := by
    have := s.connection.limits.insertion_le
    rw [hmatching, List.length_singleton]
    omega
  have hnamed : ∀ r ∈ s.connection.view.matching (tokenize query), r.id.isSome = true := by
    rw [hmatching]
    simpa using hid
  rw [← hbuilt.2] at hterms hresults
  obtain ⟨ranking, hperm, -, hfind⟩ :=
    find_builtTables hbuilt.1 (view_build hopen) hkeyed hnamed hterms limit hresults
  rw [hmatching, List.perm_singleton] at hperm
  rw [hperm, List.take_of_length_le hlimit] at hfind
  rw [(coherent_build hopen).search_eq (linear_real _), search_anew_of_isOpen hbuilt.1]
  exact ⟨_, hfind⟩

/-- A function is saved, indexed and found. Then it is saved with another call. The engine that found it gives the same
answer again, with the call that is not saved any more, although names without commas come back from the tables. -/
theorem not_readBack_of_remembered :
    let node := fun name : String => { Sample.functionNode "fetch" with calls := [name] }
    let save := fun (c : Connection ℝ) (name : String) => c.saveGraph ⟨[(some "fetch", node name)]⟩
    let s : Session ℝ := (({ connection := (save {} "old").2 } : Session ℝ).build).2
    let searched := (s.search "fetch" (10 : ℕ)).2
    let saved := save searched.connection "new"
    saved.1 = .ok () ∧ Separable (node "new").calls ∧
      ∃ found, (({ searched with connection := saved.2 } : Session ℝ).search "fetch" (10 : ℕ)).1 = .ok found ∧
        ∃ x ∈ found, x.1.id = some "fetch" ∧ x.1.calls = ["old"] ∧ ¬ (node "new").ReadBack x.1 := by
  intro node save s searched saved
  have hconnection : searched.connection = s.connection := Session.connection_search s _ _
  have hbuilt : s.connection = ((save {} "old").2.write Session.builtTables).commit :=
    congrArg (·.2.connection) (Session.build_of_isOpen (s := { connection := (save {} "old").2 }) rfl)
  have hsaved : saved.1 = .ok () := by
    rw [show saved = save searched.connection "new" from rfl, hconnection, hbuilt]
    rfl
  let r : NodeRow := { functionRow (some "fetch") "fetch" with calls := some "old" }
  obtain ⟨x, hfound⟩ : ∃ x, (s.search "fetch" (10 : ℕ)).1 = .ok [(r.toNode [], x)] :=
    Session.exists_search_build (s := { connection := (save {} "old").2 }) rfl (by decide +kernel) "fetch"
      (by decide +kernel) rfl (by decide +kernel) 10 (by decide)
  have hagain := Session.search_again hfound (List.cons_ne_nil _ _) saved.2
  have hcalls : (r.toNode []).calls = ["old"] := by decide +kernel
  refine ⟨hsaved, by decide, _, hagain, _, List.mem_singleton_self _, rfl, hcalls, fun hread => ?_⟩
  have hsame : (r.toNode []).calls = ["new"] := hread.1.mpr (by decide)
  rw [hcalls] at hsame
  exact absurd hsame (by decide)

end CodeAtlas
