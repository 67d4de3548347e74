import Mathlib
import CodeAtlas.Graph.Edit
import CodeAtlas.Proofs.Text.Pieces

/-!
# The rows of a graph

What a database keeps of a graph is one row for each key. Children are not part of a row, so only the edits that put
or erase a node change the rows of a graph. The same holds of the nodes without their children, of which the rows are
made.

A graph is tidy if its keys are different, every node stands under its own identifier, and every node has a row that
comes back unchanged when it is read as a node and stored again.

## Main definitions

* `Graph.bare?`: the node under a key, without its children
* `Graph.row`: the row under a key
* `Graph.Each`: all keys are different, and each of them holds a node of a kind
* `Graph.Tidy`: graphs that a database keeps as they are
* `Edit.lastPut`: the node that some edits leave under a key

## Main results

* `Graph.bare?_applyAll`, `Graph.row_applyAll`: the nodes and the rows after edits that erase nothing
* `Graph.Each.applyAll`: edits that put nodes of a kind only leave only such nodes
* `Graph.Tidy.applyAll`: edits that put tidy nodes leave a graph tidy
-/

namespace CodeAtlas

open Store

/-! ## Rows of nodes -/

namespace Store.NodeRow

/-- A row that comes back unchanged when it is read as a node and stored again. -/
def Stable (r : NodeRow) : Prop :=
  ofNode? (r.toNode []) = .ok r

theorem ofNode?_eq_ok_iff {n : Node} {r : NodeRow} :
    ofNode? n = .ok r ↔ storableLine n.firstLine = true ∧ storableLine n.lastLine = true ∧
      n.name = some r.name ∧ n.kind = some r.kind ∧
      r = { id := n.id, parent := n.parent, name := r.name, kind := r.kind, filePath := n.filePath
            firstLine := n.firstLine, lastLine := n.lastLine, signature := n.signature, docstring := n.docstring
            calls := joinNames n.calls, bases := joinNames n.bases, language := n.language } := by
  unfold ofNode?
  by_cases hl : (storableLine n.firstLine && storableLine n.lastLine) = true
  · rw [if_pos hl]
    rw [Bool.and_eq_true] at hl
    cases hname : n.name with
    | none => simp
    | some name =>
      cases hkind : n.kind with
      | none => simp
      | some kind =>
        constructor
        · intro h
          obtain rfl := Except.ok.inj h
          exact ⟨hl.1, hl.2, rfl, rfl, rfl⟩
        · rintro ⟨-, -, hn, hk, hr⟩
          obtain rfl := Option.some.inj hn
          obtain rfl := Option.some.inj hk
          rw [hr]
  · rw [if_neg hl]
    rw [Bool.and_eq_true] at hl
    simp only [reduceCtorEq, false_iff]
    exact fun h => hl ⟨h.1, h.2.1⟩

variable {n : Node} {r : NodeRow}

theorem id_of_ofNode? (h : ofNode? n = .ok r) : r.id = n.id := by
  rw [(ofNode?_eq_ok_iff.mp h).2.2.2.2]

theorem parent_of_ofNode? (h : ofNode? n = .ok r) : r.parent = n.parent := by
  rw [(ofNode?_eq_ok_iff.mp h).2.2.2.2]

theorem filePath_of_ofNode? (h : ofNode? n = .ok r) : r.filePath = n.filePath := by
  rw [(ofNode?_eq_ok_iff.mp h).2.2.2.2]

theorem kind_of_ofNode? (h : ofNode? n = .ok r) : n.kind = some r.kind :=
  (ofNode?_eq_ok_iff.mp h).2.2.2.1

theorem isSearchable_of_ofNode? (h : ofNode? n = .ok r) : n.isSearchable = r.isSearchable := by
  rw [Node.isSearchable, kind_of_ofNode? h]
  rfl

/-- The row of a node is stable if its lists of names hold no empty name. -/
theorem stable_of_ofNode? (h : ofNode? n = .ok r) (hcalls : "" ∉ n.calls) (hbases : "" ∉ n.bases) : r.Stable := by
  obtain ⟨hf, hl, -, -, hr⟩ := ofNode?_eq_ok_iff.mp h
  have hfirst : r.firstLine = n.firstLine := by rw [hr]
  have hlast : r.lastLine = n.lastLine := by rw [hr]
  have hc : r.calls = joinNames n.calls := by rw [hr]
  have hb : r.bases = joinNames n.bases := by rw [hr]
  refine ofNode?_eq_ok_iff.mpr ⟨by rw [toNode, hfirst, hf], by rw [toNode, hlast, hl], rfl, rfl, ?_⟩
  simp only [toNode]
  rw [joinNames_splitNames (hc ▸ joinNames_ne_empty hcalls),
    joinNames_splitNames (hb ▸ joinNames_ne_empty hbases)]

end Store.NodeRow

/-! ## Keys and nodes -/

namespace Graph

theorem find?_mk (nodes : List (NodeId × Node)) (key : NodeId) : find? ⟨nodes⟩ key = nodes.lookup key := rfl

theorem find?_put (g : Graph) (key : NodeId) (n : Node) (k : NodeId) :
    (g.put key n).find? k = if k = key then some n else g.find? k := by
  obtain ⟨nodes⟩ := g
  rw [put, find?_mk, find?_mk]
  induction nodes with
  | nil =>
    by_cases h : k = key
    · simp [putNode, h]
    · simp [putNode, h, List.lookup_cons, beq_eq_false_iff_ne.mpr h]
  | cons entry rest ih =>
    obtain ⟨j, m⟩ := entry
    by_cases hj : j = key
    · subst hj
      by_cases h : k = j
      · simp [putNode, h]
      · simp [putNode, h, List.lookup_cons, beq_eq_false_iff_ne.mpr h]
    · by_cases h : k = j
      · subst h
        simp [putNode, hj]
      · rw [putNode, if_neg hj, List.lookup_cons, List.lookup_cons, beq_eq_false_iff_ne.mpr h]
        exact ih

theorem find?_erase (g : Graph) (key k : NodeId) :
    (g.erase key).find? k = if k = key then none else g.find? k := by
  obtain ⟨nodes⟩ := g
  rw [erase, find?_mk, find?_mk]
  induction nodes with
  | nil => simp
  | cons entry rest ih =>
    obtain ⟨j, m⟩ := entry
    rw [List.filter_cons]
    by_cases hj : j = key
    · subst hj
      rw [if_neg (by simp), ih, List.lookup_cons]
      by_cases h : k = j
      · simp [h]
      · simp [h, beq_eq_false_iff_ne.mpr h]
    · rw [if_pos (by simpa using hj), List.lookup_cons, List.lookup_cons]
      by_cases h : k = j
      · subst h
        simp [hj]
      · simpa [beq_eq_false_iff_ne.mpr h] using ih

theorem find?_modifyChildren (g : Graph) (key : NodeId) (f : List NodeId → List NodeId) (k : NodeId) :
    (g.modifyChildren key f).find? k =
      (g.find? k).map fun n => if k = key then { n with children := f n.children } else n := by
  obtain ⟨nodes⟩ := g
  rw [modifyChildren, modify, find?_mk, find?_mk]
  induction nodes with
  | nil => rfl
  | cons entry rest ih =>
    obtain ⟨j, m⟩ := entry
    rw [List.map_cons, List.lookup_cons]
    by_cases h : k = j
    · subst h
      by_cases hk : k = key <;> simp [hk]
    · have hb : (k == j) = false := beq_eq_false_iff_ne.mpr h
      by_cases hj : j = key
      · simp only [if_pos hj, List.lookup_cons, hb]
        exact ih
      · simp only [if_neg hj, List.lookup_cons, hb]
        exact ih

theorem mem_of_find? {g : Graph} {k : NodeId} {n : Node} (h : g.find? k = some n) : (k, n) ∈ g.nodes := by
  obtain ⟨before, after, heq, -⟩ := List.lookup_eq_some_iff.mp h
  rw [heq]
  simp

theorem find?_of_mem {g : Graph} (h : g.keys.Nodup) {k : NodeId} {n : Node} (hm : (k, n) ∈ g.nodes) :
    g.find? k = some n := by
  obtain ⟨nodes⟩ := g
  rw [find?_mk]
  induction nodes with
  | nil => cases hm
  | cons entry rest ih =>
    obtain ⟨j, m⟩ := entry
    obtain ⟨hj, hrest⟩ := List.nodup_cons.mp h
    rcases List.mem_cons.mp hm with heq | hr
    · obtain ⟨rfl, rfl⟩ := Prod.mk.inj heq
      simp
    · have hne : k ≠ j := by
        rintro rfl
        exact hj (List.mem_map.mpr ⟨(k, n), hr, rfl⟩)
      rw [List.lookup_cons, beq_eq_false_iff_ne.mpr hne]
      exact ih hrest hr

theorem keys_putNode (key : NodeId) (n : Node) (nodes : List (NodeId × Node)) :
    (putNode key n nodes).map Prod.fst =
      if key ∈ nodes.map Prod.fst then nodes.map Prod.fst else nodes.map Prod.fst ++ [key] := by
  induction nodes with
  | nil => simp [putNode]
  | cons entry rest ih =>
    obtain ⟨j, m⟩ := entry
    by_cases hj : j = key
    · simp [putNode, hj]
    · simp only [putNode, if_neg hj, List.map_cons, ih]
      by_cases hm : key ∈ rest.map Prod.fst
      · rw [if_pos hm, if_pos (List.mem_cons_of_mem _ hm)]
      · rw [if_neg hm, if_neg (by simpa [Ne.symm hj] using hm), List.cons_append]

theorem nodup_keys_put {g : Graph} (h : g.keys.Nodup) (key : NodeId) (n : Node) : (g.put key n).keys.Nodup := by
  rw [keys, put, keys_putNode]
  split
  · exact h
  · next hm => exact List.Nodup.append h (List.nodup_singleton key) (by simpa using hm)

theorem keys_modifyChildren (g : Graph) (key : NodeId) (f : List NodeId → List NodeId) :
    (g.modifyChildren key f).keys = g.keys := by
  simp only [modifyChildren, modify, keys, List.map_map]
  refine List.map_congr_left fun entry _ => ?_
  simp only [Function.comp]
  split <;> rfl

/-! ## Nodes without their children -/

end Graph

/-- A node without its children. -/
def Node.bare (n : Node) : Node :=
  { n with children := [] }

@[simp] theorem Node.bare_id (n : Node) : n.bare.id = n.id := rfl

@[simp] theorem Node.bare_kind (n : Node) : n.bare.kind = n.kind := rfl

@[simp] theorem Node.bare_filePath (n : Node) : n.bare.filePath = n.filePath := rfl

@[simp] theorem Node.bare_isSearchable (n : Node) : n.bare.isSearchable = n.isSearchable := rfl

theorem Node.bare_of_children_eq_nil {n : Node} (h : n.children = []) : n.bare = n := by
  cases n
  simp only at h
  rw [h]
  rfl

@[simp] theorem Node.ofNode?_bare (n : Node) : NodeRow.ofNode? n.bare = NodeRow.ofNode? n := rfl

namespace Graph

/-- The node under a key, without its children. -/
def bare? (g : Graph) (k : NodeId) : Option Node :=
  (g.find? k).map Node.bare

theorem bare?_eq_some_iff {g : Graph} {k : NodeId} {n : Node} :
    g.bare? k = some n ↔ ∃ m, g.find? k = some m ∧ m.bare = n :=
  Option.map_eq_some_iff

theorem contains_eq_isSome_bare? (g : Graph) (k : NodeId) : g.contains k = (g.bare? k).isSome := by
  rw [contains, bare?, Option.isSome_map]

theorem bare?_put (g : Graph) (key : NodeId) (n : Node) (k : NodeId) :
    (g.put key n).bare? k = if k = key then some n.bare else g.bare? k := by
  rw [bare?, find?_put]
  split <;> rfl

theorem bare?_erase (g : Graph) (key k : NodeId) : (g.erase key).bare? k = if k = key then none else g.bare? k := by
  rw [bare?, find?_erase]
  split <;> rfl

@[simp] theorem bare?_modifyChildren (g : Graph) (key : NodeId) (f : List NodeId → List NodeId) (k : NodeId) :
    (g.modifyChildren key f).bare? k = g.bare? k := by
  rw [bare?, bare?, find?_modifyChildren, Option.map_map]
  congr 1
  funext n
  simp only [Function.comp]
  split <;> rfl

@[simp] theorem bare?_empty (k : NodeId) : empty.bare? k = none := rfl

/-! ## Rows -/

/-- The row under a key. -/
def row (g : Graph) (key : NodeId) : Option NodeRow :=
  (g.find? key).bind fun n => (NodeRow.ofNode? n).toOption

/-- The row under a key is made of the node without its children. -/
theorem row_eq_bind_bare? (g : Graph) (k : NodeId) :
    g.row k = (g.bare? k).bind fun n => (NodeRow.ofNode? n).toOption := by
  rw [row, bare?, Option.bind_map]
  rfl

@[simp] theorem row_empty (k : NodeId) : empty.row k = none := rfl

end Graph

/-! ## Edits that erase nothing -/

namespace Edit

/-- Whether an edit erases nothing. -/
def keeps : Edit → Bool
  | .erase _ => false
  | _ => true

/-- The node that an edit puts under a key. -/
def put? (key : NodeId) : Edit → Option Node
  | .put k n => if k = key then some n else none
  | _ => none

/-- The node that some edits leave under a key, if they put one there. -/
def lastPut (key : NodeId) : List Edit → Option Node
  | [] => none
  | e :: rest => (lastPut key rest).or (e.put? key)

@[simp] theorem lastPut_nil (key : NodeId) : lastPut key [] = none := rfl

theorem lastPut_append (key : NodeId) (es fs : List Edit) :
    lastPut key (es ++ fs) = (lastPut key fs).or (lastPut key es) := by
  induction es with
  | nil => simp
  | cons e es ih => rw [List.cons_append, lastPut, lastPut, ih, Option.or_assoc]

theorem mem_of_lastPut {key : NodeId} {es : List Edit} {n : Node} (h : lastPut key es = some n) :
    .put key n ∈ es := by
  induction es with
  | nil => cases h
  | cons e es ih =>
    rw [lastPut, Option.or_eq_some_iff] at h
    rcases h with h | ⟨-, h⟩
    · exact List.mem_cons_of_mem _ (ih h)
    · cases e with
      | put k m =>
        simp only [put?] at h
        split at h
        · next hk =>
          obtain rfl := Option.some.inj h
          simp [hk]
        · cases h
      | _ => cases h

theorem lastPut_isSome_of_mem {key : NodeId} {es : List Edit} {n : Node} (h : .put key n ∈ es) :
    (lastPut key es).isSome = true := by
  induction es with
  | nil => cases h
  | cons e es ih =>
    rw [lastPut, Option.isSome_or, Bool.or_eq_true]
    rcases List.mem_cons.mp h with rfl | h
    · exact Or.inr (by simp [put?])
    · exact Or.inl (ih h)

/-- Where blocks of edits put nothing under a common key, each block has the last word on its own keys. -/
theorem lastPut_flatMap {α : Type} {key : NodeId} {block : α → List Edit} {as : List α} {a : α} (ha : a ∈ as)
    (honly : ∀ b ∈ as, (lastPut key (block b)).isSome = true → b = a) :
    lastPut key (as.flatMap block) = lastPut key (block a) := by
  induction as with
  | nil => cases ha
  | cons b rest ih =>
    rw [List.flatMap_cons, lastPut_append]
    by_cases hrest : a ∈ rest
    · -- if the block of `a` puts nothing, then neither does that of `b`, which would have to be `a`
      rw [ih hrest fun c hc => honly c (List.mem_cons_of_mem _ hc)]
      cases hlast : lastPut key (block a) with
      | some n => rfl
      | none =>
        rw [Option.none_or]
        cases hb : lastPut key (block b) with
        | none => rfl
        | some m =>
          have := honly b List.mem_cons_self (by rw [hb]; rfl)
          rw [this, hlast] at hb
          cases hb
    · obtain rfl : a = b := (List.mem_cons.mp ha).resolve_right hrest
      have hnone : lastPut key (rest.flatMap block) = none := by
        rw [Option.eq_none_iff_forall_not_mem]
        intro m hm
        obtain ⟨c, hc, hput⟩ := List.mem_flatMap.mp (mem_of_lastPut hm)
        exact hrest (honly c (List.mem_cons_of_mem _ hc) (lastPut_isSome_of_mem hput) ▸ hc)
      rw [hnone, Option.none_or]

end Edit

namespace Graph

/-- **The nodes after edits that erase nothing**: the last node put under a key decides. -/
theorem bare?_applyAll {es : List Edit} (h : ∀ e ∈ es, e.keeps = true) (g : Graph) (k : NodeId) :
    (g.applyAll es).bare? k = ((Edit.lastPut k es).map Node.bare).or (g.bare? k) := by
  induction es generalizing g with
  | nil => rfl
  | cons e es ih =>
    have hes : ∀ f ∈ es, f.keeps = true := fun f hf => h f (List.mem_cons_of_mem _ hf)
    have hstep : (g.apply e).bare? k = ((e.put? k).map Node.bare).or (g.bare? k) := by
      cases e with
      | put key n =>
        rw [apply, bare?_put, Edit.put?]
        by_cases hk : k = key
        · simp [hk]
        · simp [hk, Ne.symm hk]
      | attach parent child => simp [apply, Edit.put?]
      | detach parent child => simp [apply, Edit.put?]
      | erase key => exact absurd (h _ List.mem_cons_self) (by simp [Edit.keeps])
    change ((g.apply e).applyAll es).bare? k = _
    rw [ih hes, hstep, Edit.lastPut, ← Option.or_assoc]
    cases Edit.lastPut k es <;> rfl

/-- **The rows after edits that erase nothing**: the last node put under a key decides. -/
theorem row_applyAll {es : List Edit} (h : ∀ e ∈ es, e.keeps = true) (g : Graph) (k : NodeId) :
    (g.applyAll es).row k =
      match Edit.lastPut k es with
      | some n => (NodeRow.ofNode? n).toOption
      | none => g.row k := by
  rw [row_eq_bind_bare?, row_eq_bind_bare?, bare?_applyAll h]
  cases Edit.lastPut k es <;> rfl

/-! ## Graphs with nodes of a kind -/

/-- All keys are different, and each of them holds a node of a kind. -/
structure Each (P : NodeId → Node → Prop) (g : Graph) : Prop where
  distinct : g.keys.Nodup
  each : ∀ {k n}, (k, n) ∈ g.nodes → P k n

namespace Each

variable {P : NodeId → Node → Prop} {g : Graph}

theorem of_find? (hkeys : g.keys.Nodup) (h : ∀ k n, g.find? k = some n → P k n) : g.Each P :=
  ⟨hkeys, fun hm => h _ _ (find?_of_mem hkeys hm)⟩

theorem put (h : g.Each P) {key : NodeId} {n : Node} (hn : P key n) : (g.put key n).Each P := by
  refine .of_find? (nodup_keys_put h.distinct key n) fun k m hm => ?_
  rw [find?_put] at hm
  split at hm
  · next hk =>
    obtain rfl := Option.some.inj hm
    rwa [hk]
  · exact h.each (mem_of_find? hm)

theorem erase (h : g.Each P) (key : NodeId) : (g.erase key).Each P := by
  have hkeys : (g.erase key).keys.Nodup := (List.filter_sublist.map Prod.fst).nodup h.distinct
  refine .of_find? hkeys fun k m hm => ?_
  rw [find?_erase] at hm
  split at hm
  · cases hm
  · exact h.each (mem_of_find? hm)

section Children

/- Whether a node is of the kind does not hang on its children. -/
variable (hP : ∀ {k n} (children : List NodeId), P k n → P k { n with children := children })

include hP

theorem modifyChildren (h : g.Each P) (key : NodeId) (f : List NodeId → List NodeId) :
    (g.modifyChildren key f).Each P := by
  refine .of_find? (by rw [keys_modifyChildren]; exact h.distinct) fun k m hm => ?_
  rw [find?_modifyChildren, Option.map_eq_some_iff] at hm
  obtain ⟨n, hn, rfl⟩ := hm
  have hnode := h.each (mem_of_find? hn)
  split
  · exact hP _ hnode
  · exact hnode

/-- **Edits that put nodes of a kind only leave only such nodes.** -/
theorem applyAll (h : g.Each P) {es : List Edit} (hes : ∀ k n, .put k n ∈ es → P k n) : (g.applyAll es).Each P := by
  induction es generalizing g with
  | nil => exact h
  | cons e es ih =>
    have hstep : (g.apply e).Each P := by
      cases e with
      | put key n => exact h.put (hes key n List.mem_cons_self)
      | attach parent child => exact h.modifyChildren hP parent (· ++ [child])
      | detach parent child => exact h.modifyChildren hP parent (·.erase child)
      | erase key => exact h.erase key
    exact ih hstep fun k n hm => hes k n (List.mem_cons_of_mem _ hm)

end Children

end Each

/-! ## Tidy graphs -/

end Graph

/-- A node that can be stored under a key: the key is its identifier, and its row is stable. -/
def Node.Storable (key : NodeId) (n : Node) : Prop :=
  n.id = key ∧ key.isSome = true ∧ ∃ r, NodeRow.ofNode? n = .ok r ∧ r.Stable

theorem Node.storable_of_fields {n : Node} {key name kind : String} (hid : n.id = some key)
    (hfirst : storableLine n.firstLine = true) (hlast : storableLine n.lastLine = true) (hname : n.name = some name)
    (hkind : n.kind = some kind) (hcalls : "" ∉ n.calls) (hbases : "" ∉ n.bases) : n.Storable (some key) := by
  obtain ⟨r, hr⟩ : ∃ r, NodeRow.ofNode? n = .ok r := by
    unfold NodeRow.ofNode?
    rw [hfirst, hlast, hname, hkind]
    exact ⟨_, rfl⟩
  exact ⟨hid, rfl, r, hr, NodeRow.stable_of_ofNode? hr hcalls hbases⟩

/-- An edit that puts storable nodes only. -/
def Edit.Sound : Edit → Prop
  | .put key n => n.Storable key
  | _ => True

namespace Graph

/-- A graph that a database keeps as it is. -/
structure Tidy (g : Graph) : Prop where
  distinct : g.keys.Nodup
  storable : ∀ {k n}, (k, n) ∈ g.nodes → n.Storable k

theorem tidy_empty : empty.Tidy := ⟨List.nodup_nil, fun h => absurd h (by simp [empty])⟩

variable {g : Graph}

theorem Tidy.of_find? (hkeys : g.keys.Nodup) (h : ∀ k n, g.find? k = some n → n.Storable k) : g.Tidy :=
  ⟨hkeys, fun hm => h _ _ (find?_of_mem hkeys hm)⟩

/-- **Edits that put storable nodes leave a graph tidy.** -/
theorem Tidy.applyAll (h : g.Tidy) {es : List Edit} (hes : ∀ e ∈ es, e.Sound) : (g.applyAll es).Tidy := by
  have heach : (g.applyAll es).Each fun k n => n.Storable k :=
    Each.applyAll (fun _ hn => hn) ⟨h.distinct, h.storable⟩ fun k n hm => hes _ hm
  exact ⟨heach.distinct, heach.each⟩

theorem Tidy.row_of_find? (h : g.Tidy) {k : NodeId} {n : Node} (hn : g.find? k = some n) :
    ∃ r, g.row k = some r ∧ NodeRow.ofNode? n = .ok r ∧ r.Stable ∧ r.id = k ∧ r.filePath = n.filePath := by
  obtain ⟨hid, -, r, hr, hs⟩ := h.storable (mem_of_find? hn)
  refine ⟨r, ?_, hr, hs, (NodeRow.id_of_ofNode? hr).trans hid, NodeRow.filePath_of_ofNode? hr⟩
  rw [row, hn, Option.bind_some, hr]
  rfl

theorem Tidy.contains_eq (h : g.Tidy) (k : NodeId) : g.contains k = (g.row k).isSome := by
  rw [contains]
  cases hn : g.find? k with
  | none => rw [row, hn]; rfl
  | some n =>
    obtain ⟨r, hr, -⟩ := h.row_of_find? hn
    rw [hr]
    rfl

theorem Tidy.find?_of_row (h : g.Tidy) {k : NodeId} {r : NodeRow} (hr : g.row k = some r) :
    ∃ n, g.find? k = some n ∧ NodeRow.ofNode? n = .ok r ∧ r.Stable ∧ r.id = k ∧ r.filePath = n.filePath ∧
      k.isSome = true := by
  obtain ⟨n, hn, hrow⟩ := Option.bind_eq_some_iff.mp hr
  obtain ⟨r', hr', hok, hs, hid, hfile⟩ := h.row_of_find? hn
  obtain rfl : r' = r := Option.some.inj (hr'.symm.trans hr)
  exact ⟨n, hn, hok, hs, hid, hfile, (h.storable (mem_of_find? hn)).2.1⟩

end Graph

end CodeAtlas
