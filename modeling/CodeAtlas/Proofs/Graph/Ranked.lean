import Mathlib
import CodeAtlas.Proofs.Graph.Owned
import CodeAtlas.Proofs.Store.Subtree

/-!
# Ranks of identifiers

An identifier has a rank: that of the root is zero, and any other one has a higher rank the longer it is. If every node
has a higher rank than the node above it and a lower rank than its children, then no walk up or down the graph comes to
a node twice. This does not need the parents and the children to agree, nor that they are there.

So the numbers of a node, which are found by going down from it, are found after finitely many steps. The graph asks the
children of a node one after another. The tables keep a queue of rows: the first row is taken out, and the rows below it
are put at the end. Both are defined here without any bound on the number of steps, and shown to end with the numbers
that are found within as many levels as there are nodes.

## Main definitions

* `rank`: the rank of an identifier
* `Graph.Up`, `Graph.Down`: from a node to the one above it, and to its children
* `Graph.Ranked`: ranks grow on the way down
* `Graph.Counted`: the numbers of a node, as the graph finds them
* `Drained`: a queue that runs empty
* `Tables.Descends`, `Tables.DescendsAll`: the rows that the tables find

## Main results

* `Graph.Ranked.applyAll`: edits that respect ranks keep a graph ranked
* `Graph.Ranked.walk_up`, `Graph.Ranked.walk_down`: walks come to no node twice
* `Graph.Ranked.counted`: the graph finds the numbers of every node
* `Graph.not_counted_of_down`, `Tables.not_descends_of_parent_eq`: neither the graph nor the tables find the numbers of
  a node that is above itself
* `Tables.Ranked.exists_descends`, `Tables.Ranked.exists_descendsAll`: the tables of a ranked graph find all numbers
-/

namespace CodeAtlas

open Store

/-! ## Ranks -/

/-- The rank of an identifier. The root has the lowest one, and longer identifiers have higher ones. -/
def rank : NodeId → Nat
  | none => 0
  | some id => if id = "." then 0 else id.length + 1

@[simp] theorem rank_rootKey : rank Graph.rootKey = 0 := rfl

theorem rank_some_of_ne {id : String} (h : id ≠ ".") : rank (some id) = id.length + 1 := if_neg h

theorem rank_lt_of_length_lt {a b : String} (hb : b ≠ ".") (h : a.length < b.length) :
    rank (some a) < rank (some b) := by
  rw [rank_some_of_ne hb, rank]
  split <;> omega

theorem rank_rootKey_lt {b : String} (hb : b ≠ ".") : rank Graph.rootKey < rank (some b) := by
  rw [rank_rootKey, rank_some_of_ne hb]
  exact Nat.succ_pos _

/-! ## Walks -/

section Walks

variable {α : Type} {r : α → α → Prop} {walk : List α}

/-- A walk on which a number grows comes to nothing twice. -/
theorem nodup_of_isChain (f : α → Nat) (h : ∀ a b, r a b → f a < f b) (hwalk : walk.IsChain r) : walk.Nodup := by
  have hmap : (walk.map f).IsChain (· < ·) := (List.isChain_map f).mpr (hwalk.imp h)
  exact List.Nodup.of_map f (hmap.pairwise.imp Nat.ne_of_lt)

/-- A walk that comes to nothing twice has at most one step from each place. -/
theorem length_le_of_isChain (places : List α) (h : ∀ a b, r a b → a ∈ places) (hwalk : walk.IsChain r)
    (hnodup : walk.Nodup) : walk.length ≤ places.length + 1 := by
  have hsub : ∀ a ∈ walk.dropLast, a ∈ places := by
    clear hnodup
    induction walk with
    | nil => simp
    | cons a walk ih =>
      cases walk with
      | nil => simp
      | cons b walk =>
        rw [List.isChain_cons_cons] at hwalk
        rw [List.dropLast_cons_cons, List.forall_mem_cons]
        exact ⟨h a b hwalk.1, ih hwalk.2⟩
  have hlength := (List.subperm_of_subset (hnodup.sublist (List.dropLast_sublist _)) hsub).length_le
  rw [List.length_dropLast] at hlength
  omega

end Walks

/-! ## Ranked graphs -/

/-- A node that a key may hold: the key is its identifier, and is ranked between the node above it and its children. -/
structure Node.Ranked (key : NodeId) (n : Node) : Prop where
  id : n.id = key
  parent : n.parent.isSome = true → rank n.parent < rank key
  children : ∀ c ∈ n.children, rank key < rank c

/-- An edit that respects ranks. -/
def Edit.Ranked : Edit → Prop
  | .put key n => n.Ranked key
  | .attach parent child => rank parent < rank child
  | .detach _ _ => True
  | .erase _ => True

namespace Graph

variable {g : Graph}

/-- From a node to the one above it, which may be missing. -/
def Up (g : Graph) (k p : NodeId) : Prop :=
  ∃ n, g.find? k = some n ∧ p.isSome = true ∧ n.parent = p

/-- From a node to one of its children, which may be missing. -/
def Down (g : Graph) (k c : NodeId) : Prop :=
  ∃ n, g.find? k = some n ∧ c ∈ n.children

/-- All keys are different, and ranks grow on the way down. -/
def Ranked (g : Graph) : Prop :=
  g.Each fun k n => n.Ranked k

theorem mem_keys_of_find? {k : NodeId} {n : Node} (hn : g.find? k = some n) : k ∈ g.keys :=
  List.mem_map.mpr ⟨(k, n), mem_of_find? hn, rfl⟩

theorem ranked_empty : empty.Ranked := ⟨List.nodup_nil, fun h => absurd h (by simp [empty])⟩

namespace Ranked

theorem of_find? (h : g.Ranked) {k : NodeId} {n : Node} (hn : g.find? k = some n) : n.Ranked k :=
  h.each (mem_of_find? hn)

theorem modifyChildren (h : g.Ranked) {key : NodeId} {f : List NodeId → List NodeId}
    (hf : ∀ children, ∀ c ∈ f children, c ∈ children ∨ rank key < rank c) : (g.modifyChildren key f).Ranked := by
  refine Each.of_find? (by rw [keys_modifyChildren]; exact h.distinct) fun k m hm => ?_
  rw [find?_modifyChildren, Option.map_eq_some_iff] at hm
  obtain ⟨n, hn, rfl⟩ := hm
  have hnode := h.of_find? hn
  split
  · next hkey =>
    refine ⟨hnode.id, hnode.parent, fun c hc => ?_⟩
    rcases hf n.children c hc with hc | hc
    · exact hnode.children c hc
    · rwa [hkey]
  · exact hnode

/-- An edit that respects ranks keeps a graph ranked. -/
theorem apply (h : g.Ranked) {e : Edit} (he : e.Ranked) : (g.apply e).Ranked := by
  cases e with
  | put key n => exact Each.put h he
  | attach parent child =>
    change (g.modifyChildren parent (· ++ [child])).Ranked
    refine h.modifyChildren fun children c hc => ?_
    rcases List.mem_append.mp hc with hc | hc
    · exact Or.inl hc
    · rw [List.mem_singleton.mp hc]
      exact Or.inr he
  | detach parent child => exact h.modifyChildren fun children c hc => Or.inl (List.mem_of_mem_erase hc)
  | erase key => exact Each.erase h key

/-- **Edits that respect ranks keep a graph ranked.** -/
theorem applyAll (h : g.Ranked) {es : List Edit} (hes : ∀ e ∈ es, e.Ranked) : (g.applyAll es).Ranked := by
  induction es generalizing g with
  | nil => exact h
  | cons e es ih =>
    rw [List.forall_mem_cons] at hes
    exact ih (h.apply hes.1) hes.2

/-! ### Walks -/

theorem rank_lt_of_up (h : g.Ranked) {k p : NodeId} (hup : g.Up k p) : rank p < rank k := by
  obtain ⟨n, hn, hsome, rfl⟩ := hup
  exact (h.of_find? hn).parent hsome

theorem rank_lt_of_down (h : g.Ranked) {k c : NodeId} (hdown : g.Down k c) : rank k < rank c := by
  obtain ⟨n, hn, hc⟩ := hdown
  exact (h.of_find? hn).children c hc

/-- **A walk up the graph comes to no node twice**, and ends. -/
theorem walk_up (h : g.Ranked) {walk : List NodeId} (hwalk : walk.IsChain g.Up) :
    walk.Nodup ∧ walk.length ≤ g.nodes.length + 1 := by
  have hnodup : walk.Nodup := by
    rw [← List.nodup_reverse]
    exact nodup_of_isChain rank (fun _ _ hup => h.rank_lt_of_up hup) (List.isChain_reverse.mpr hwalk)
  have hlength := length_le_of_isChain g.keys (fun k p ⟨n, hn, _⟩ => mem_keys_of_find? hn) hwalk hnodup
  rw [keys, List.length_map] at hlength
  exact ⟨hnodup, hlength⟩

/-- **A walk down the graph comes to no node twice**, and ends. -/
theorem walk_down (h : g.Ranked) {walk : List NodeId} (hwalk : walk.IsChain g.Down) :
    walk.Nodup ∧ walk.length ≤ g.nodes.length + 1 := by
  have hnodup := nodup_of_isChain rank (fun _ _ hdown => h.rank_lt_of_down hdown) hwalk
  have hlength := length_le_of_isChain g.keys (fun k c ⟨n, hn, _⟩ => mem_keys_of_find? hn) hwalk hnodup
  rw [keys, List.length_map] at hlength
  exact ⟨hnodup, hlength⟩

end Ranked

/-! ## Counting in a graph -/

/-- The numbers of a node and of all nodes below it: the children are asked one after another, and each of them asks its
own children. There is a finite derivation exactly if this ends. -/
inductive Counted (g : Graph) : NodeId → Stats → Prop
  /-- There is no node. -/
  | missing {k : NodeId} (hk : g.find? k = none) : Counted g k .zero
  /-- There is a node, and its children have been counted. -/
  | node {k : NodeId} {n : Node} {below : List Stats} (hn : g.find? k = some n)
      (hbelow : List.Forall₂ (Counted g) n.children below) : Counted g k (Stats.ofKind n.kind + Stats.sum below)

theorem counted_statsTo {depth : Nat} {k : NodeId} (h : ∀ walk, (k :: walk).IsChain g.Down → walk.length < depth) :
    g.Counted k (g.statsTo depth k) := by
  induction depth generalizing k with
  | zero => exact absurd (h [] (List.isChain_singleton k)) (Nat.lt_irrefl 0)
  | succ depth ih =>
    rw [statsTo]
    cases hn : g.find? k with
    | none => exact .missing hn
    | some n =>
      refine .node hn (List.forall₂_map_right_iff.mpr (List.forall₂_same.mpr fun c hc => ih fun walk hwalk => ?_))
      exact Nat.lt_of_succ_lt_succ (h (c :: walk) (List.isChain_cons_cons.mpr ⟨⟨n, hn, hc⟩, hwalk⟩))

/-- The numbers of a node that is its own child are never found. -/
theorem not_counted_of_down {k : NodeId} (h : g.Down k k) (stats : Stats) : ¬ g.Counted k stats := by
  obtain ⟨m, hm, hself⟩ := h
  suffices hall : ∀ {k' stats'}, g.Counted k' stats' → k' ≠ k from fun hcounted => hall hcounted rfl
  intro k' stats' hcounted
  -- on the derivation: no node in it is `k`, and `k` is not among the children that are counted in it
  refine @Counted.rec g (fun k' _ _ => k' ≠ k) (fun children _ _ => k ∉ children) ?_ ?_ ?_ ?_ k' stats' hcounted
  · rintro k' hnone rfl
    rw [hm] at hnone
    cases hnone
  · rintro k' n below hn - hchildren rfl
    rw [hm] at hn
    exact hchildren (Option.some.inj hn ▸ hself)
  · exact List.not_mem_nil
  · intro child stats children below _ _ hchild hchildren
    rw [List.mem_cons, not_or]
    exact ⟨Ne.symm hchild, hchildren⟩

/-- **The graph finds the numbers of every node.** -/
theorem Ranked.counted (h : g.Ranked) (k : NodeId) : g.Counted k (g.stats k) :=
  counted_statsTo fun _ hwalk => Nat.lt_of_succ_le (h.walk_down hwalk).2

end Graph

/-! ## Counting in tables -/

/-- A queue runs empty: its first element is taken out, and what comes next to this is put at the end. The elements come
out in the given order. There is a finite derivation exactly if this ends. -/
inductive Drained {α : Type} (next : α → List α) : List α → List α → Prop
  /-- The queue is empty. -/
  | done : Drained next [] []
  /-- The first element is taken out. -/
  | row {a : α} {queue found : List α} (rest : Drained next (queue ++ next a) found) :
      Drained next (a :: queue) (a :: found)

namespace Drained

variable {α : Type} {next : α → List α}

/-- What comes next to the elements of a queue comes out after all of them. -/
theorem level (rows behind : List α) {found : List α} (h : Drained next (behind ++ rows.flatMap next) found) :
    Drained next (rows ++ behind) (rows ++ found) := by
  induction rows generalizing behind with
  | nil => simpa using h
  | cons a rows ih =>
    rw [List.cons_append, List.cons_append]
    refine .row ?_
    rw [List.append_assoc]
    refine ih _ ?_
    rwa [List.append_assoc, ← List.flatMap_cons]

/-- A queue with an element that is next to itself does not run empty. -/
theorem not_mem_of_mem_next {a : α} (ha : a ∈ next a) {queue found : List α} (h : Drained next queue found) :
    a ∉ queue := by
  induction h with
  | done => exact List.not_mem_nil
  | row _ ih =>
    rw [List.mem_append, not_or] at ih
    rw [List.mem_cons, not_or]
    refine ⟨?_, ih.1⟩
    rintro rfl
    exact ih.2 ha

/-- A queue runs empty level by level if all walks from it are short. -/
theorem of_levels {levels : Nat → List α → List α} (hzero : ∀ rows, levels 0 rows = [])
    (hsucc : ∀ depth rows, levels (depth + 1) rows = rows ++ levels depth (rows.flatMap next)) {depth : Nat}
    {rows : List α} (h : ∀ a ∈ rows, ∀ walk, (a :: walk).IsChain (fun a b => b ∈ next a) → walk.length < depth) :
    Drained next rows (levels depth rows) := by
  induction depth generalizing rows with
  | zero =>
    cases rows with
    | nil =>
      rw [hzero]
      exact .done
    | cons a rows => exact absurd (h a List.mem_cons_self [] (List.isChain_singleton a)) (Nat.lt_irrefl 0)
  | succ depth ih =>
    have hbelow : Drained next (rows.flatMap next) (levels depth (rows.flatMap next)) := by
      refine ih fun b hb walk hwalk => ?_
      obtain ⟨a, ha, hb⟩ := List.mem_flatMap.mp hb
      exact Nat.lt_of_succ_lt_succ (h a ha (b :: walk) (List.isChain_cons_cons.mpr ⟨hb, hwalk⟩))
    rw [hsucc]
    simpa using level rows [] hbelow

end Drained

namespace Store.Tables

variable {R : Type} {t : Tables R}

/-- The rows at and below an identifier, as a query finds them. -/
def Descends (t : Tables R) (k : NodeId) (found : List NodeRow) : Prop :=
  Drained (fun r => t.below r.id) (t.row? k).toList found

/-- The rows at and below several identifiers, as one query finds them, each with the identifier that it was found
from. -/
def DescendsAll (t : Tables R) (ids : List NodeId) (found : List (NodeId × NodeRow)) : Prop :=
  Drained (fun x => (t.below x.2.id).map fun s => (x.1, s))
    ((t.nodes.filter fun r => r.id.isSome && ids.contains r.id).map fun r => (r.id, r)) found

/-- A row that names itself as the row above it is found again and again. -/
theorem not_descends_of_parent_eq {k : NodeId} {r : NodeRow} (hr : t.row? k = some r) (hparent : r.parent = k)
    (found : List NodeRow) : ¬ t.Descends k found := by
  intro h
  cases k with
  | none => cases hr
  | some id =>
    have hid : r.id = some id := by simpa using List.find?_some hr
    have hself : r ∈ t.below r.id := by
      rw [hid, mem_below_iff]
      exact ⟨List.mem_of_find?_eq_some hr, rfl, hparent⟩
    exact Drained.not_mem_of_mem_next hself h (Option.mem_toList.mpr hr)

/-- Every row has a higher rank than the row above it. -/
def Ranked (t : Tables R) : Prop :=
  ∀ r ∈ t.nodes, r.parent.isSome = true → rank r.parent < rank r.id

/-- **The rows of a ranked graph are ranked.** -/
theorem ranked_of_storeRows {g : Graph} (hg : g.Ranked) (hrows : storeRows [] (g.nodes.map (·.2)) = .ok t.nodes) :
    t.Ranked := by
  intro r hr
  obtain ⟨n, hmem, hn⟩ := exists_of_mem_storeRows hrows hr
  obtain ⟨entry, hentry, rfl⟩ := List.mem_map.mp hmem
  have hnode := hg.each hentry
  rw [NodeRow.parent_of_ofNode? hn, NodeRow.id_of_ofNode? hn, hnode.id]
  exact hnode.parent

namespace Ranked

variable (h : t.Ranked)

include h

theorem rank_lt_of_mem_below {r s : NodeRow} (hs : s ∈ t.below r.id) : rank r.id < rank s.id := by
  obtain ⟨hmem, hsome, hparent⟩ := mem_below_iff.mp hs
  rw [← hparent] at hsome ⊢
  exact h s hmem hsome

/-- A walk down the rows is not longer than the table. -/
theorem length_walk_lt {r : NodeRow} {walk : List NodeRow} (hwalk : (r :: walk).IsChain fun r s => s ∈ t.below r.id) :
    walk.length < t.nodes.length + 1 := by
  have hnodup := nodup_of_isChain (fun r : NodeRow => rank r.id) (fun _ _ hs => h.rank_lt_of_mem_below hs) hwalk
  have hsub : ∀ s ∈ walk, s ∈ t.nodes := by
    clear hnodup
    induction walk generalizing r with
    | nil => simp
    | cons s walk ih =>
      rw [List.isChain_cons_cons] at hwalk
      rw [List.forall_mem_cons]
      exact ⟨(mem_below_iff.mp hwalk.1).1, ih hwalk.2⟩
  exact Nat.lt_succ_of_le (List.subperm_of_subset (List.nodup_cons.mp hnodup).2 hsub).length_le

/-- **The tables find the numbers of every identifier.** -/
theorem exists_descends (k : NodeId) : ∃ found, t.Descends k found ∧ t.stats k = countRows found :=
  ⟨_, Drained.of_levels (fun _ => rfl) closure_succ fun _ _ _ hwalk => h.length_walk_lt hwalk, rfl⟩

/-- **The tables find the numbers of several identifiers at once.** -/
theorem exists_descendsAll (ids : List NodeId) : ∃ found, t.DescendsAll ids found ∧
    t.statsOfAll ids = ids.eraseDups.map fun id => (id, countRows ((found.filter (·.1 == id)).map (·.2))) := by
  refine ⟨_, Drained.of_levels (fun _ => rfl) labelledClosure_succ fun x _ walk hwalk => ?_, rfl⟩
  -- without the labels it is a walk down the rows
  have hrows : ((x :: walk).map (·.2)).IsChain fun r s => s ∈ t.below r.id := by
    refine (List.isChain_map _).mpr (hwalk.imp fun a b hb => ?_)
    obtain ⟨s, hs, rfl⟩ := List.mem_map.mp hb
    exact hs
  simpa using h.length_walk_lt hrows

end Ranked

end Store.Tables

end CodeAtlas
