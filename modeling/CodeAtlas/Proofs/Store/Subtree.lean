import Mathlib
import CodeAtlas.Proofs.Store.Saved

/-!
# The numbers of a subtree

How many files, classes, functions and methods there are at and below a node is found in three ways. The tables go down
from one row, or from several rows at once with a label on each, and the loaded graph follows the lists of children. If
the rows have identifiers of their own and none is above itself, then all three count each row of the subtree once.

Each way goes down level by level. A level has no row twice and no row above another one, since a row has one parent,
and this is kept from level to level. No chain of rows is longer than the table, so the last level is reached.

## Main definitions

* `Tables.Above`: a row names another one as its parent
* `Tables.InSubtree`: the rows at and below an identifier
* `Tables.Forest`: tables of nodes with identifiers of their own, none above itself
* `Tables.Mirrors`: a graph has the nodes of the tables, with the rows below them as children

## Main results

* `Tables.Forest.nodup_closure`, `Tables.Forest.mem_closure_iff`: the levels below a row are its subtree, each row
  once
* `Tables.lookup_statsOfAll`: counting with labels does not mix subtrees
* `Tables.Mirrors.stats_eq`: a graph counts as the tables that it mirrors
* `stats_eq_subtree`: all three ways count each row of the subtree once
-/

namespace CodeAtlas

open Store

/-! ## Sums of numbers -/

namespace Stats

theorem add_def (s t : Stats) :
    s + t = ⟨s.files + t.files, s.classes + t.classes, s.functions + t.functions, s.methods + t.methods⟩ := rfl

instance : Zero Stats := ⟨zero⟩

instance : AddCommMonoid Stats where
  add_assoc s t u := by simp only [add_def, Int.add_assoc]
  zero_add s := by
    change zero + s = s
    simp [add_def, zero]
  add_zero s := by
    change s + zero = s
    simp [add_def, zero]
  add_comm s t := by
    rw [add_def, add_def, Int.add_comm s.files, Int.add_comm s.classes, Int.add_comm s.functions,
      Int.add_comm s.methods]
  nsmul := nsmulRec

theorem sum_eq (groups : List Stats) : sum groups = groups.sum := rfl

end Stats

namespace Store.Tables

theorem countRows_append (rows rows' : List NodeRow) :
    countRows (rows ++ rows') = countRows rows + countRows rows' := by
  simp [countRows, countKind, Stats.add_def]

theorem countRows_singleton (r : NodeRow) : countRows [r] = Stats.ofKind (some r.kind) := by
  unfold countRows countKind Stats.ofKind
  split <;> simp_all

theorem countRows_eq_sum (rows : List NodeRow) :
    countRows rows = (rows.map fun r => Stats.ofKind (some r.kind)).sum := by
  induction rows with
  | nil => rfl
  | cons r rest ih =>
    rw [← List.singleton_append, countRows_append, countRows_singleton, ih, List.singleton_append, List.map_cons,
      List.sum_cons]

variable {R : Type} {t : Tables R}

/-! ## Levels -/

theorem mem_below_iff {k : NodeId} {s : NodeRow} :
    s ∈ t.below k ↔ s ∈ t.nodes ∧ k.isSome = true ∧ s.parent = k := by
  cases k with
  | none => simp [below]
  | some id => simp [below]

theorem mem_nodes_of_mem_row? {k : NodeId} {r : NodeRow} (h : r ∈ (t.row? k).toList) : r ∈ t.nodes := by
  rw [Option.mem_toList] at h
  cases k with
  | none => cases h
  | some id => exact List.mem_of_find?_eq_some h

@[simp] theorem closure_nil (depth : Nat) : t.closure depth [] = [] := by
  cases depth <;> rfl

theorem closure_succ (depth : Nat) (rows : List NodeRow) :
    t.closure (depth + 1) rows = rows ++ t.closure depth (rows.flatMap fun r => t.below r.id) := by
  rw [closure]
  split
  · next hempty =>
    rw [List.isEmpty_iff] at hempty
    simp [hempty]
  · rfl

theorem labelledClosure_succ (depth : Nat) (rows : List (NodeId × NodeRow)) :
    t.labelledClosure (depth + 1) rows =
      rows ++ t.labelledClosure depth (rows.flatMap fun x => (t.below x.2.id).map fun s => (x.1, s)) := by
  rw [labelledClosure]
  split
  · next hempty =>
    rw [List.isEmpty_iff] at hempty
    subst hempty
    cases depth <;> rfl
  · rfl

/-- What has a label is found from the rows that have it. -/
theorem map_filter_labelledClosure (k : NodeId) (depth : Nat) (rows : List (NodeId × NodeRow)) :
    ((t.labelledClosure depth rows).filter (·.1 == k)).map (·.2) =
      t.closure depth ((rows.filter (·.1 == k)).map (·.2)) := by
  induction depth generalizing rows with
  | zero => rfl
  | succ depth ih =>
    -- a level down, the rows with the label are those below the rows with it
    have hlevel : ((rows.flatMap fun x => (t.below x.2.id).map fun s => (x.1, s)).filter (·.1 == k)).map (·.2) =
        ((rows.filter (·.1 == k)).map (·.2)).flatMap fun r => t.below r.id := by
      induction rows with
      | nil => rfl
      | cons x rest ihr =>
        rw [List.flatMap_cons, List.filter_append, List.map_append, ihr, List.filter_cons]
        cases hx : x.1 == k with
        | false =>
          have hnone : ((t.below x.2.id).map fun s => (x.1, s)).filter (·.1 == k) = [] := by
            simp [List.filter_map, Function.comp_def, hx]
          rw [hnone]
          rfl
        | true =>
          have hall : ((t.below x.2.id).map fun s => (x.1, s)).filter (·.1 == k) =
              (t.below x.2.id).map fun s => (x.1, s) := by
            simp [List.filter_map, Function.comp_def, hx]
          rw [hall, List.map_map]
          simp [Function.comp_def]
    rw [labelledClosure_succ, List.filter_append, List.map_append, ih, hlevel, closure_succ]

/-- Among rows with different identifiers, at most one has a given one. -/
theorem filter_id_eq_toList_find? {rows : List NodeRow} (h : (rows.map (·.id)).Nodup) (id : String) :
    rows.filter (·.id == some id) = (rows.find? (·.id == some id)).toList := by
  induction rows with
  | nil => rfl
  | cons r rest ih =>
    rw [List.map_cons, List.nodup_cons] at h
    rw [List.filter_cons, List.find?_cons]
    cases hr : r.id == some id with
    | false => simpa using ih h.2
    | true =>
      have hnone : rest.filter (·.id == some id) = [] := by
        rw [List.filter_eq_nil_iff]
        intro s hs hid
        rw [beq_iff_eq] at hr hid
        exact h.1 (List.mem_map.mpr ⟨s, hs, hid.trans hr.symm⟩)
      simp [hnone]

theorem lookup_map_of_mem {V : Type} (f : NodeId → V) {ids : List NodeId} {k : NodeId} (h : k ∈ ids) :
    (ids.map fun id => (id, f id)).lookup k = some (f k) := by
  induction ids with
  | nil => cases h
  | cons i rest ih =>
    rw [List.map_cons, List.lookup_cons]
    by_cases hk : k = i
    · simp [hk]
    · have hne : (k == i) = false := by simpa using hk
      rw [hne]
      exact ih ((List.mem_cons.mp h).resolve_left hk)

/-- **Counting with labels does not mix subtrees**: for each identifier it gives what is counted from this one alone. -/
theorem lookup_statsOfAll (h : (t.nodes.map (·.id)).Nodup) {ids : List NodeId} {k : NodeId} (hk : k ∈ ids) :
    (t.statsOfAll ids).lookup k = some (t.stats k) := by
  rw [statsOfAll, lookup_map_of_mem _ (List.mem_eraseDups.mpr hk), map_filter_labelledClosure, stats]
  have hstart : (((t.nodes.filter fun r => r.id.isSome && ids.contains r.id).map fun r => (r.id, r)).filter
      (·.1 == k)).map (·.2) = (t.row? k).toList := by
    rw [List.filter_map, List.map_map, List.filter_filter]
    simp only [Function.comp_def, List.map_id']
    cases k with
    | none =>
      rw [row?, Option.toList_none, List.filter_eq_nil_iff]
      intro r _ hr
      simp only [Bool.and_eq_true, beq_iff_eq] at hr
      simp [hr.1] at hr
    | some id =>
      rw [row?, ← filter_id_eq_toList_find? h]
      refine List.filter_congr fun r _ => ?_
      rw [Bool.eq_iff_iff]
      simp only [Bool.and_eq_true, beq_iff_eq, List.contains_iff_mem]
      constructor
      · rintro ⟨hid, -⟩
        exact hid
      · intro hid
        rw [hid]
        exact ⟨rfl, rfl, hk⟩
  rw [hstart]

/-! ## Subtrees -/

/-- A row names another one as its parent. -/
def Above (t : Tables R) (r s : NodeRow) : Prop :=
  r ∈ t.nodes ∧ s ∈ t.nodes ∧ s.parent = r.id

/-- The rows at and below an identifier. -/
def InSubtree (t : Tables R) (k : NodeId) (s : NodeRow) : Prop :=
  ∃ r ∈ t.nodes, r.id = k ∧ Relation.ReflTransGen t.Above r s

/-- Tables of nodes with identifiers of their own, none of them empty, and none above itself. A parent may be
missing. -/
structure Forest (t : Tables R) : Prop where
  distinct : (t.nodes.map (·.id)).Nodup
  named : ∀ r ∈ t.nodes, ∃ id, r.id = some id ∧ id ≠ ""
  acyclic : ∀ r, ¬ Relation.TransGen t.Above r r

/-- Rows of which none is met twice on the way down: all different, and none below another one. -/
structure Apart (t : Tables R) (rows : List NodeRow) : Prop where
  stored : ∀ r ∈ rows, r ∈ t.nodes
  nodup : rows.Nodup
  unrelated : ∀ r ∈ rows, ∀ s ∈ rows, Relation.ReflTransGen t.Above r s → r = s

theorem apart_row? (k : NodeId) : t.Apart (t.row? k).toList where
  stored r hr := mem_nodes_of_mem_row? hr
  nodup := Option.toList_nodup _
  unrelated r hr s hs _ := by
    rw [Option.mem_toList] at hr hs
    exact Option.mem_unique hr hs

namespace Forest

variable (h : t.Forest)

include h

theorem mem_below_iff_above {r s : NodeRow} (hr : r ∈ t.nodes) : s ∈ t.below r.id ↔ t.Above r s := by
  obtain ⟨id, hid, -⟩ := h.named r hr
  rw [mem_below_iff, Above]
  simp [hid, hr]

theorem above_unique {r r' s : NodeRow} (hr : t.Above r s) (hr' : t.Above r' s) : r = r' :=
  List.inj_on_of_nodup_map h.distinct hr.1 hr'.1 (hr.2.2.symm.trans hr'.2.2)

/-- Each row below a row that is below another one comes through its one parent. -/
theorem reaches_parent {r s s' : NodeRow} (hreach : Relation.ReflTransGen t.Above s s') (hne : s ≠ s')
    (hr : t.Above r s') : Relation.ReflTransGen t.Above s r := by
  rcases Relation.ReflTransGen.cases_tail hreach with heq | ⟨above, hs, habove⟩
  · exact absurd heq.symm hne
  · rwa [h.above_unique hr habove]

/-- **The rows one level down are apart** if the rows of a level are. -/
theorem apart_below {rows : List NodeRow} (ha : t.Apart rows) :
    t.Apart (rows.flatMap fun r => t.below r.id) := by
  have hlevel : ∀ s ∈ rows.flatMap (fun r => t.below r.id), ∃ r ∈ rows, t.Above r s := by
    intro s hs
    obtain ⟨r, hr, hs⟩ := List.mem_flatMap.mp hs
    exact ⟨r, hr, (h.mem_below_iff_above (ha.stored r hr)).mp hs⟩
  refine ⟨fun s hs => ?_, ?_, fun s hs s' hs' hreach => ?_⟩
  · obtain ⟨r, -, habove⟩ := hlevel s hs
    exact habove.2.1
  · rw [List.nodup_flatMap]
    refine ⟨fun r hr => ?_, ha.nodup.imp_of_mem fun {r r'} hr hr' hne s hs hs' => ?_⟩
    · obtain ⟨id, hid, -⟩ := h.named r (ha.stored r hr)
      rw [hid]
      exact h.distinct.of_map.filter _
    · rw [h.mem_below_iff_above (ha.stored r hr)] at hs
      rw [h.mem_below_iff_above (ha.stored r' hr')] at hs'
      exact hne (h.above_unique hs hs')
  · -- else the parent of the lower one is below the parent of the upper one, or the same and above itself
    by_contra hne
    obtain ⟨r, hr, habove⟩ := hlevel s hs
    obtain ⟨r', hr', habove'⟩ := hlevel s' hs'
    have hdown : Relation.TransGen t.Above r r' := .head' habove (h.reaches_parent hreach hne habove')
    obtain rfl := ha.unrelated r hr r' hr' hdown.to_reflTransGen
    exact h.acyclic r hdown

theorem exists_reaches_of_mem_closure {depth : Nat} {rows : List NodeRow} (hrows : ∀ r ∈ rows, r ∈ t.nodes)
    {s : NodeRow} (hs : s ∈ t.closure depth rows) : ∃ r ∈ rows, Relation.ReflTransGen t.Above r s := by
  induction depth generalizing rows with
  | zero => cases hs
  | succ depth ih =>
    rw [closure_succ, List.mem_append] at hs
    rcases hs with hs | hs
    · exact ⟨s, hs, .refl⟩
    · obtain ⟨r', hr', hreach⟩ := ih (fun r hr => by
        obtain ⟨above, -, hr⟩ := List.mem_flatMap.mp hr
        exact (mem_below_iff.mp hr).1) hs
      obtain ⟨r, hr, hbelow⟩ := List.mem_flatMap.mp hr'
      exact ⟨r, hr, .head ((h.mem_below_iff_above (hrows r hr)).mp hbelow) hreach⟩

/-- **No row is met twice** on the way down from rows that are apart. -/
theorem nodup_closure (depth : Nat) {rows : List NodeRow} (ha : t.Apart rows) : (t.closure depth rows).Nodup := by
  induction depth generalizing rows with
  | zero => exact List.nodup_nil
  | succ depth ih =>
    have hnext := h.apart_below ha
    rw [closure_succ, List.nodup_append']
    refine ⟨ha.nodup, ih hnext, fun s hs hs' => ?_⟩
    obtain ⟨r', hr', hreach⟩ := h.exists_reaches_of_mem_closure hnext.stored hs'
    obtain ⟨r, hr, hbelow⟩ := List.mem_flatMap.mp hr'
    have hdown : Relation.TransGen t.Above r s :=
      .head' ((h.mem_below_iff_above (ha.stored r hr)).mp hbelow) hreach
    obtain rfl := ha.unrelated r hr s hs hdown.to_reflTransGen
    exact h.acyclic r hdown

/-- The end of a chain is met as many levels down as the chain is long. -/
theorem getLast_mem_closure {chain : List NodeRow} {r : NodeRow} (hchain : (r :: chain).IsChain t.Above)
    {rows : List NodeRow} (hr : r ∈ rows) {depth : Nat} (hdepth : chain.length < depth) :
    (r :: chain).getLast (List.cons_ne_nil r chain) ∈ t.closure depth rows := by
  -- on the chain: each link takes one level
  induction chain generalizing r rows depth with
  | nil =>
    obtain ⟨depth, rfl⟩ := Nat.exists_eq_succ_of_ne_zero (Nat.ne_of_gt hdepth)
    rw [closure_succ]
    exact List.mem_append_left _ hr
  | cons s chain ih =>
    obtain ⟨depth, rfl⟩ := Nat.exists_eq_succ_of_ne_zero (Nat.ne_of_gt (Nat.zero_lt_of_lt hdepth))
    rw [List.isChain_cons_cons] at hchain
    have hs : s ∈ rows.flatMap fun r => t.below r.id :=
      List.mem_flatMap.mpr ⟨r, hr, (h.mem_below_iff_above hchain.1.1).mpr hchain.1⟩
    rw [closure_succ, List.getLast_cons_cons]
    exact List.mem_append_right _ (ih hchain.2 hs (Nat.lt_of_succ_lt_succ hdepth))

/-- No chain is longer than the table: its rows are all different. -/
theorem length_lt_of_isChain {chain : List NodeRow} {r : NodeRow} (hr : r ∈ t.nodes)
    (hchain : (r :: chain).IsChain t.Above) : chain.length < t.nodes.length := by
  have hpairwise : (r :: chain).Pairwise (Relation.TransGen t.Above) :=
    (hchain.imp fun _ _ => Relation.TransGen.single).pairwise
  -- a row that comes again would be above itself
  have hnodup : (r :: chain).Nodup := by
    refine List.Pairwise.imp ?_ hpairwise
    rintro a b hab rfl
    exact h.acyclic a hab
  have hsubset : ∀ s ∈ r :: chain, s ∈ t.nodes := by
    intro s hs
    rcases List.mem_cons.mp hs with rfl | hs
    · exact hr
    · have hbelow := List.rel_of_pairwise_cons hpairwise hs
      obtain ⟨above, -, habove⟩ := Relation.TransGen.tail'_iff.mp hbelow
      exact habove.2.1
  exact (List.subperm_of_subset hnodup hsubset).length_le

/-- **The levels below some rows are all rows below them**, if there are as many levels as rows. -/
theorem mem_closure_iff {depth : Nat} (hdepth : t.nodes.length ≤ depth) {rows : List NodeRow}
    (hrows : ∀ r ∈ rows, r ∈ t.nodes) {s : NodeRow} :
    s ∈ t.closure depth rows ↔ ∃ r ∈ rows, Relation.ReflTransGen t.Above r s := by
  refine ⟨h.exists_reaches_of_mem_closure hrows, ?_⟩
  rintro ⟨r, hr, hreach⟩
  obtain ⟨chain, hchain, rfl⟩ := List.exists_isChain_cons_of_relationReflTransGen hreach
  exact h.getLast_mem_closure hchain hr ((h.length_lt_of_isChain (hrows r hr) hchain).trans_le hdepth)

/-- The numbers of an identifier count each row of its subtree once. -/
theorem exists_stats_eq_countRows (k : NodeId) :
    ∃ rows : List NodeRow, rows.Nodup ∧ (∀ s, s ∈ rows ↔ t.InSubtree k s) ∧ t.stats k = countRows rows := by
  have ha := apart_row? (t := t) k
  refine ⟨_, h.nodup_closure (t.nodes.length + 1) ha, fun s => ?_, rfl⟩
  have hrow : ∀ r, r ∈ (t.row? k).toList ↔ r ∈ t.nodes ∧ r.id = k := by
    intro r
    cases k with
    | none =>
      -- a missing identifier finds no row, and no row lacks its identifier
      refine ⟨fun hr => (by cases hr), fun ⟨hr, hid⟩ => ?_⟩
      obtain ⟨id, hsome, -⟩ := h.named r hr
      rw [hid] at hsome
      cases hsome
    | some id =>
      rw [Option.mem_toList]
      exact find?_id_eq_some_iff h.distinct
  rw [h.mem_closure_iff (Nat.le_succ _) ha.stored, InSubtree]
  simp only [hrow, and_assoc]

end Forest

/-! ## Graphs that mirror tables -/

/-- A graph has one node for each row, of the same kind and with the rows below it as children, and no others. -/
structure Mirrors (t : Tables R) (g : Graph) : Prop where
  distinct : (t.nodes.map (·.id)).Nodup
  length_eq : t.nodes.length = g.nodes.length
  node : ∀ r ∈ t.nodes, r.id.isSome = true ∧ ∃ n, g.find? r.id = some n ∧ n.kind = some r.kind ∧
    ((t.below r.id).map (·.id)).Perm n.children
  row : ∀ k n, g.find? k = some n → ∃ r ∈ t.nodes, r.id = k

namespace Mirrors

variable {g : Graph} (h : t.Mirrors g)

include h

/-- Some rows and the rows below them, level by level, are counted as the graph counts their nodes. -/
theorem countRows_closure (depth : Nat) {rows : List NodeRow} (hrows : ∀ r ∈ rows, r ∈ t.nodes) :
    countRows (t.closure depth rows) = (rows.map fun r => g.statsTo depth r.id).sum := by
  induction depth generalizing rows with
  | zero =>
    have hzero : (rows.map fun r => g.statsTo 0 r.id) = rows.map fun _ => 0 := rfl
    rw [hzero, List.map_const', List.sum_replicate, smul_zero]
    rfl
  | succ depth ih =>
    have hbelow : ∀ r ∈ rows.flatMap (fun r => t.below r.id), r ∈ t.nodes := by
      intro r hr
      obtain ⟨above, -, hr⟩ := List.mem_flatMap.mp hr
      exact (mem_below_iff.mp hr).1
    -- a node counts itself, and then its children one level less deep
    have hnode : ∀ r ∈ rows, g.statsTo (depth + 1) r.id =
        Stats.ofKind (some r.kind) + ((t.below r.id).map fun r => g.statsTo depth r.id).sum := by
      intro r hr
      obtain ⟨-, n, hn, hkind, hchildren⟩ := h.node r (hrows r hr)
      have hperm := hchildren.map (g.statsTo depth)
      rw [List.map_map] at hperm
      rw [Graph.statsTo, hn]
      simp only
      rw [hkind, Stats.sum_eq, ← hperm.sum_eq]
      rfl
    rw [closure_succ, countRows_append, countRows_eq_sum, ih hbelow, List.map_congr_left hnode, List.sum_map_add,
      List.map_flatMap, List.flatMap_def, List.sum_flatten, List.map_map]
    rfl

/-- **A graph counts as the tables that it mirrors**, at every key. -/
theorem stats_eq (k : NodeId) : g.stats k = t.stats k := by
  unfold Graph.stats stats
  rw [h.countRows_closure _ fun r hr => mem_nodes_of_mem_row? hr, h.length_eq]
  cases hk : g.find? k with
  | none =>
    -- a key without a node has no row
    have hnone : t.row? k = none := by
      cases k with
      | none => rfl
      | some id =>
        rw [Option.eq_none_iff_forall_not_mem]
        intro r hr
        obtain ⟨hmem, hid⟩ := (find?_id_eq_some_iff h.distinct).mp hr
        obtain ⟨-, n, hn, -⟩ := h.node r hmem
        rw [hid, hk] at hn
        cases hn
    rw [hnone, Graph.statsTo, hk]
    rfl
  | some n =>
    obtain ⟨r, hr, rfl⟩ := h.row k n hk
    obtain ⟨id, hid⟩ := Option.isSome_iff_exists.mp (h.node r hr).1
    have hfound : t.row? r.id = some r := by
      rw [hid]
      exact (find?_id_eq_some_iff h.distinct).mpr ⟨hr, hid⟩
    rw [hfound]
    simp

end Mirrors

/-- The children of a loaded node are the rows below it, as long as no identifier is empty. -/
theorem loadedChildren_eq {id : String} (hid : id ≠ "") :
    t.loadedChildren (some id) = (t.below (some id)).map (·.id) := by
  rw [loadedChildren, below]
  refine congrArg _ (List.filter_congr fun s _ => ?_)
  cases hparent : s.parent with
  | none => simp [Node.parent?, NodeRow.toNode, hparent]
  | some parent =>
    by_cases hempty : parent = ""
    · subst hempty
      simp [Node.parent?, NodeRow.toNode, hparent, Ne.symm hid]
    · simp [Node.parent?, NodeRow.toNode, hparent, hempty]

/-- **The loaded graph mirrors the tables.** -/
theorem Forest.mirrors_graph (h : t.Forest) : t.Mirrors t.graph where
  distinct := h.distinct
  length_eq := by rw [nodes_graph h.distinct, List.length_map]
  node r hr := by
    obtain ⟨id, hid, hne⟩ := h.named r hr
    refine ⟨by rw [hid]; rfl, _, (find?_graph_iff h.distinct).mpr ⟨r, hr, rfl, rfl⟩, rfl, ?_⟩
    rw [hid, NodeRow.toNode, loadedChildren_eq hne]
  row k n hn := by
    obtain ⟨r, hr, hid, -⟩ := (find?_graph_iff h.distinct).mp hn
    exact ⟨r, hr, hid⟩

/-- No row is above itself if some number grows on the way down. -/
theorem not_transGen_of_rank (rank : NodeRow → Nat)
    (h : ∀ r ∈ t.nodes, ∀ s ∈ t.nodes, s.parent = r.id → rank r < rank s) (r : NodeRow) :
    ¬ Relation.TransGen t.Above r r := by
  have hgrows : ∀ {a b : NodeRow}, Relation.TransGen t.Above a b → rank a < rank b := by
    intro a b hab
    induction hab with
    | single hab => exact h _ hab.1 _ hab.2.1 hab.2.2
    | tail _ hbc ih => exact ih.trans (h _ hbc.1 _ hbc.2.1 hbc.2.2)
  exact fun hr => Nat.lt_irrefl _ (hgrows hr)

end Store.Tables

/-! ## Three ways of counting -/

/-- Up to as many identifiers as a statement has variables are asked for at once. -/
theorem Store.Connection.statsOfAll_of_few {R : Type} {c : Connection R} (hopen : c.isOpen = true) {ids : List NodeId}
    (hfew : ids.length ≤ c.limits.maxVariables) : c.statsOfAll ids = .ok (c.view.statsOfAll ids) := by
  rw [statsOfAll]
  split
  · next hempty =>
    rw [List.isEmpty_iff.mp hempty]
    rfl
  · rw [if_neg (by simpa using fun _ => hfew), ask_of_isOpen hopen]

/-- More identifiers than a statement has variables are refused. -/
theorem Store.Connection.statsOfAll_of_many {R : Type} {c : Connection R} (hopen : c.isOpen = true) {ids : List NodeId}
    (hmany : c.limits.maxVariables < ids.length) : c.statsOfAll ids = .error .tooManyVariables := by
  have hne : ids.isEmpty = false := by
    rw [List.isEmpty_eq_false_iff]
    exact List.ne_nil_of_length_pos (Nat.zero_lt_of_lt hmany)
  simp [statsOfAll, hne, hopen, hmany]

/-- **All three ways count each row of the subtree once.** An open connection whose rows are a forest gives, for each of
several identifiers, the same numbers when all are asked for at once, when one is asked for, and when the loaded graph
is asked. More identifiers than a statement has variables are refused. -/
theorem stats_eq_subtree {R : Type} {c : Connection R} (hopen : c.isOpen = true) (h : c.view.Forest)
    (ids : List NodeId) :
    (ids.length ≤ c.limits.maxVariables → ∃ found, c.statsOfAll ids = .ok found ∧
      ∀ k ∈ ids, ∃ rows : List NodeRow, rows.Nodup ∧ (∀ s, s ∈ rows ↔ c.view.InSubtree k s) ∧
        found.lookup k = some (Tables.countRows rows) ∧ c.ask (·.stats k) = .ok (Tables.countRows rows) ∧
        c.ask (·.graph.stats k) = .ok (Tables.countRows rows)) ∧
      (c.limits.maxVariables < ids.length → c.statsOfAll ids = .error .tooManyVariables) := by
  refine ⟨fun hlength => ?_, Connection.statsOfAll_of_many hopen⟩
  refine ⟨c.view.statsOfAll ids, Connection.statsOfAll_of_few hopen hlength, fun k hk => ?_⟩
  obtain ⟨rows, hnodup, hrows, hstats⟩ := h.exists_stats_eq_countRows k
  refine ⟨rows, hnodup, hrows, ?_, ?_, ?_⟩
  · rw [Tables.lookup_statsOfAll h.distinct hk, hstats]
  · rw [Connection.ask_of_isOpen hopen, hstats]
  · rw [Connection.ask_of_isOpen hopen, h.mirrors_graph.stats_eq, hstats]

namespace Sample

/-- A row with an identifier, a parent and a kind. -/
def row (id : String) (parent : NodeId) (kind : String) : NodeRow :=
  { (default : NodeRow) with id := some id, parent, name := id, kind }

/-- A class with a method and a class in it, and a function whose parent is missing. -/
def classRows : List NodeRow :=
  [row "a.py:A.B" (some "a.py:A") "class", row "a.py:A" (some "a.py") "class",
    row "a.py:A.B.m" (some "a.py:A.B") "method", row "lone" (some "gone") "function"]

/-- A connection to a database with some rows. -/
def connected (rows : List NodeRow) : Connection Float :=
  { committed := { nodes := rows } }

theorem forest_classRows : (connected classRows).view.Forest where
  distinct := by decide +kernel
  named := by
    intro r hr
    have hall : ∀ r ∈ classRows, r.id.isSome = true ∧ r.id ≠ some "" := by decide +kernel
    obtain ⟨hsome, hne⟩ := hall r hr
    obtain ⟨id, hid⟩ := Option.isSome_iff_exists.mp hsome
    exact ⟨id, hid, fun he => hne (he ▸ hid)⟩
  acyclic := Tables.not_transGen_of_rank (fun r => r.name.length) (by decide +kernel)

end Sample

/-- A class is asked for together with a class in it, and with an identifier that is not there. -/
theorem stats_eq_subtree_classRows :
    let c := Sample.connected Sample.classRows
    let ids := [some "a.py:A", some "gone", some "a.py:A.B", some "a.py:A"]
    c.view.Forest ∧ ∃ found, c.statsOfAll ids = .ok found ∧
      found.lookup (some "a.py:A") = some { classes := 2, methods := 1 } ∧
      c.ask (·.graph.stats (some "a.py:A")) = .ok { classes := 2, methods := 1 } := by
  intro c ids
  obtain ⟨found, hfound, hall⟩ := (stats_eq_subtree (c := c) rfl Sample.forest_classRows ids).1 (by decide)
  obtain ⟨rows, -, -, hlookup, hone, hgraph⟩ := hall (some "a.py:A") (by decide)
  have hcount : Tables.countRows rows = { classes := 2, methods := 1 } := by
    have hstats : c.view.stats (some "a.py:A") = { classes := 2, methods := 1 } := by decide +kernel
    exact (Except.ok.inj hone).symm.trans hstats
  rw [hcount] at hlookup hgraph
  exact ⟨Sample.forest_classRows, found, hfound, hlookup, hgraph⟩

/-- One more identifier than a statement has variables: there are no numbers, though the row is there. -/
theorem not_statsOfAll_of_many :
    let c := { Sample.connected Sample.classRows with limits := { maxVariables := 250000 } }
    let ids := List.replicate 250001 (some "lone")
    c.isOpen = true ∧ c.view.Forest ∧ c.ask (·.stats (some "lone")) = .ok { functions := 1 } ∧
      ∀ found, c.statsOfAll ids ≠ .ok found := by
  intro c ids
  have hstats : c.view.stats (some "lone") = { functions := 1 } := by decide +kernel
  refine ⟨rfl, Sample.forest_classRows, congrArg Except.ok hstats, fun found => ?_⟩
  have hmany : c.limits.maxVariables < ids.length := by
    rw [List.length_replicate]
    decide
  rw [Connection.statsOfAll_of_many rfl hmany]
  intro hok
  cases hok

end CodeAtlas
