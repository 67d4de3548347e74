import Mathlib
import CodeAtlas.Proofs.Store.Queries
import CodeAtlas.Proofs.Store.RoundTrip
import CodeAtlas.Proofs.Store.Subtree

/-!
# The readers of the table of nodes

A node can be read in three ways: by itself, with the other nodes below its parent, and with all nodes of the graph. All
of them take the same columns of the same row. They differ in how they come by the children. One reads the identifiers
of the children as rows, one goes through all nodes and leaves out parents that are empty, and one has them joined by
commas into one column, as lists of names are. So the readers agree exactly where joining the identifiers loses nothing,
and where nothing hangs below an empty identifier.

## Main definitions

* `Separable`: lists of names that survive being joined by commas
* `Node.Same`: equality of nodes up to the order of their children
* `SameReadings`: nodes that were read together are those that were read one by one

## Main results

* `splitNames_joinNames_eq_iff`, `splitNames_joinNames_perm_iff`: a list of names comes back exactly if it is separable
* `Tables.Named.children_perm`: the nodes below an identifier, up to their order
* `readers_agree_iff`: where the readers of a saved graph agree
-/

namespace CodeAtlas

open Store

/-! ## Names in one column -/

namespace Store

/-- A list of names that survives being joined by commas: no name holds a comma, and it is not that of a single empty
name. -/
def Separable (names : List String) : Prop :=
  (∀ name ∈ names, ',' ∉ name.toList) ∧ names ≠ [""]

instance (names : List String) : Decidable (Separable names) :=
  inferInstanceAs (Decidable (_ ∧ _))

theorem not_mem_comma_of_mem_splitNames {column : Option String} {name : String} (h : name ∈ splitNames column) :
    ',' ∉ name.toList := by
  cases column with
  | none => cases h
  | some s =>
    rw [splitNames] at h
    split at h
    · cases h
    · obtain ⟨piece, hpiece, rfl⟩ := List.mem_map.mp h
      rw [String.toList_ofList]
      exact Text.not_mem_of_mem_splitOn hpiece

/-- No piece of a column holds a comma, so a list whose names all come back is separable. -/
theorem separable_of_subset {names : List String} (h : ∀ name ∈ names, name ∈ splitNames (joinNames names)) :
    Separable names := by
  refine ⟨fun name hname => not_mem_comma_of_mem_splitNames (h name hname), ?_⟩
  rintro rfl
  cases h "" List.mem_cons_self

/-- **A list of names comes back exactly if it is separable.** -/
theorem splitNames_joinNames_eq_iff {names : List String} : splitNames (joinNames names) = names ↔ Separable names :=
  ⟨fun h => separable_of_subset fun _ hname => h.symm ▸ hname, fun h => splitNames_joinNames h.2 h.1⟩

/-- The same holds up to the order of the names. -/
theorem splitNames_joinNames_perm_iff {names : List String} :
    (splitNames (joinNames names)).Perm names ↔ Separable names :=
  ⟨fun h => separable_of_subset fun _ hname => h.mem_iff.mpr hname, fun h => .of_eq (splitNames_joinNames_eq_iff.mpr h)⟩

end Store

/-! ## Nodes read together and one by one -/

/-- Two nodes are the same up to the order of their children. -/
def Node.Same (n m : Node) : Prop :=
  n.bare = m.bare ∧ n.children.Perm m.children

/-- Nodes that were read together are, up to their order, those that were read one by one. -/
def SameReadings (together : List Node) (single : List (Option Node)) : Prop :=
  ∃ ns : List Node, ns.Perm together ∧ List.Forall₂ (fun n read => Option.Rel Node.Same (some n) read) ns single

theorem exists_of_mem_right {α β : Type} {rel : α → β → Prop} {xs : List α} {ys : List β} (h : List.Forall₂ rel xs ys)
    {y : β} (hy : y ∈ ys) : ∃ x ∈ xs, rel x y := by
  induction h with
  | nil => cases hy
  | cons hrel _ ih =>
    rcases List.mem_cons.mp hy with rfl | hy
    · exact ⟨_, List.mem_cons_self, hrel⟩
    · obtain ⟨x, hx, hrel⟩ := ih hy
      exact ⟨x, List.mem_cons_of_mem _ hx, hrel⟩

theorem map_some_reduceOption {α : Type} {xs : List (Option α)} (h : ∀ x ∈ xs, x ≠ none) :
    xs.reduceOption.map some = xs := by
  induction xs with
  | nil => rfl
  | cons x rest ih =>
    obtain ⟨a, rfl⟩ := Option.ne_none_iff_exists'.mp (h x List.mem_cons_self)
    rw [List.reduceOption_cons_of_some, List.map_cons, ih fun x hx => h x (List.mem_cons_of_mem _ hx)]

namespace Store

variable {R : Type} {t : Tables R}

theorem NodeRow.same_toNode_iff {r : NodeRow} {ids ids' : List NodeId} :
    (r.toNode ids).Same (r.toNode ids') ↔ ids.Perm ids' :=
  ⟨And.right, And.intro rfl⟩

/-- Every row has an identifier of its own. -/
structure Tables.Named (t : Tables R) : Prop where
  distinct : (t.nodes.map (·.id)).Nodup
  present : ∀ r ∈ t.nodes, r.id ≠ none

namespace Tables

theorem firstOfEach_of_nodup {rows : List NodeRow} (h : (rows.map (·.id)).Nodup) : firstOfEach rows = rows := by
  rw [firstOfEach]
  induction rows with
  | nil => rfl
  | cons r rest ih =>
    obtain ⟨hr, hrest⟩ := List.nodup_cons.mp h
    have hothers : rest.filter (fun s => (s.id == r.id) = false) = rest := by
      refine List.filter_eq_self.mpr fun s hs => ?_
      simpa using fun heq : s.id = r.id => hr (List.mem_map.mpr ⟨s, hs, heq⟩)
    rw [List.eraseDupsBy_cons, hothers, ih hrest]

/-- Nothing is hung below an empty identifier when the graph is loaded. -/
theorem loadedChildren_empty : t.loadedChildren (some "") = [] := by
  rw [loadedChildren, List.map_eq_nil_iff, List.filter_eq_nil_iff]
  intro s _
  cases hparent : s.parent with
  | none => simp [Node.parent?, NodeRow.toNode, hparent]
  | some parent => by_cases hempty : parent = "" <;> simp [Node.parent?, NodeRow.toNode, hparent, hempty]

namespace Named

theorem node?_id (h : t.Named) {r : NodeRow} (hr : r ∈ t.nodes) :
    t.node? r.id = some (r.toNode ((t.below r.id).map (·.id))) := by
  obtain ⟨id, hid⟩ := Option.ne_none_iff_exists'.mp (h.present r hr)
  have hrow : t.row? r.id = some r := by
    rw [hid]
    exact (find?_id_eq_some_iff h.distinct).mpr ⟨hr, hid⟩
  rw [node?, hrow, Option.map_some]

/-- **The nodes below an identifier**, up to their order. -/
theorem children_perm (h : t.Named) (k : NodeId) :
    (t.children k).Perm ((t.below k).map fun r => r.toNode (t.joinedChildren r)) := by
  have hbelow : ((t.below k).map (·.id)).Nodup := by
    cases k with
    | none => exact List.nodup_nil
    | some id => exact (List.filter_sublist.map _).nodup h.distinct
  rw [children, firstOfEach_of_nodup hbelow]
  exact (List.mergeSort_perm _ _).map _

/-- The identifiers of the children come back from one column exactly if they are separable. -/
theorem joinedChildren_perm_iff (h : t.Named) (r : NodeRow) :
    (t.joinedChildren r).Perm ((t.below r.id).map (·.id)) ↔ Separable ((t.below r.id).map (·.id)).reduceOption := by
  have hpresent : (t.below r.id).map (·.id) = ((t.below r.id).map (·.id)).reduceOption.map some := by
    refine (map_some_reduceOption fun id hid => ?_).symm
    obtain ⟨s, hs, rfl⟩ := List.mem_map.mp hid
    exact h.present s (mem_below_iff.mp hs).1
  have hjoined : t.joinedChildren r = (splitNames (joinNames ((t.below r.id).map (·.id)).reduceOption)).map some := by
    rw [joinedChildren, List.reduceOption, List.filterMap_map]
    rfl
  rw [hjoined]
  nth_rewrite 2 [hpresent]
  rw [List.map_perm_map_iff (Option.some_injective _), splitNames_joinNames_perm_iff]

/-- **Nodes that are read together are those that are read one by one** exactly if the identifiers below each of them are
separable. -/
theorem sameReadings_children_iff (h : t.Named) (k : NodeId) :
    SameReadings (t.children k) (((t.below k).map (·.id)).map t.node?) ↔
      ∀ r ∈ t.below k, Separable ((t.below r.id).map (·.id)).reduceOption := by
  have hsingle : ((t.below k).map (·.id)).map t.node? =
      (t.below k).map fun r => some (r.toNode ((t.below r.id).map (·.id))) := by
    rw [List.map_map]
    exact List.map_congr_left fun r hr => h.node?_id (mem_below_iff.mp hr).1
  rw [hsingle]
  constructor
  · rintro ⟨ns, hperm, hsame⟩ r hr
    -- the node with the identifier of the row is the only one that can be the same
    rw [List.forall₂_map_right_iff] at hsame
    obtain ⟨n, hn, hrel⟩ := exists_of_mem_right hsame hr
    obtain ⟨r', hr', rfl⟩ := List.mem_map.mp ((hperm.trans (h.children_perm k)).mem_iff.mp hn)
    obtain ⟨hbare, hchildren⟩ : (r'.toNode (t.joinedChildren r')).Same (r.toNode ((t.below r.id).map (·.id))) := by
      cases hrel with
      | some hsame => exact hsame
    have hid : r'.id = r.id := congrArg Node.id hbare
    obtain rfl : r' = r := List.inj_on_of_nodup_map h.distinct (mem_below_iff.mp hr').1 (mem_below_iff.mp hr).1 hid
    exact (h.joinedChildren_perm_iff r').mp hchildren
  · intro hseparable
    refine ⟨_, (h.children_perm k).symm, ?_⟩
    rw [List.forall₂_map_left_iff, List.forall₂_map_right_iff, List.forall₂_same]
    intro r hr
    exact .some (NodeRow.same_toNode_iff.mpr ((h.joinedChildren_perm_iff r).mpr (hseparable r hr)))

/-- **A node of the loaded graph is the one that is read by itself**, unless something hangs below an empty identifier. -/
theorem rel_find?_graph_iff (h : t.Named) (id : String) :
    Option.Rel Node.Same (t.graph.find? (some id)) (t.node? (some id)) ↔
      id ≠ "" ∨ some "" ∉ t.nodes.map (·.id) ∨ t.below (some "") = [] := by
  by_cases hrow : ∃ r ∈ t.nodes, r.id = some id
  · obtain ⟨r, hr, hid⟩ := hrow
    have hsingle := h.node?_id hr
    rw [hid] at hsingle
    rw [(find?_graph_iff h.distinct).mpr ⟨r, hr, hid, rfl⟩, hsingle, Option.rel_some_some, NodeRow.same_toNode_iff]
    by_cases hempty : id = ""
    · subst hempty
      rw [loadedChildren_empty, List.nil_perm, List.map_eq_nil_iff]
      refine ⟨fun hnone => Or.inr (Or.inr hnone), ?_⟩
      rintro (hne | hnone | hnone)
      · exact absurd rfl hne
      · exact absurd (List.mem_map.mpr ⟨r, hr, hid⟩) hnone
      · exact hnone
    · rw [loadedChildren_eq hempty]
      exact ⟨fun _ => Or.inl hempty, fun _ => List.Perm.refl _⟩
  · have hloaded : t.graph.find? (some id) = none := by
      rw [Option.eq_none_iff_forall_ne_some]
      intro n hn
      obtain ⟨r, hr, hid, -⟩ := (find?_graph_iff h.distinct).mp hn
      exact hrow ⟨r, hr, hid⟩
    have hsingle : t.node? (some id) = none := by
      rw [node?, row?, Option.map_eq_none_iff, List.find?_eq_none]
      exact fun r hr hid => hrow ⟨r, hr, by simpa using hid⟩
    rw [hloaded, hsingle]
    refine ⟨fun _ => ?_, fun _ => .none⟩
    by_cases hempty : id = ""
    · subst hempty
      exact Or.inr (Or.inl fun hmem => hrow (List.mem_map.mp hmem))
    · exact Or.inl hempty

end Named

end Tables

end Store

/-! ## The readers of a saved graph -/

/-- The identifiers of the nodes of a graph that name another one as their parent. -/
def Graph.idsBelow (g : Graph) (k : NodeId) : List NodeId :=
  ((g.nodes.map (·.2)).filter (·.parent == k)).map (·.id)

section

variable {R : Type} {t : Tables R} {g : Graph} {rows : List NodeRow}

theorem Store.map_id_of_storeRows (hrows : storeRows [] (g.nodes.map (·.2)) = .ok rows) :
    rows.map (·.id) = g.nodes.map (·.2.id) := by
  have hall := map_filter_rows (p := fun _ => true) (q := fun _ => true) (storeRows_eq_ok hrows)
    fun n _ r hr => ⟨rfl, NodeRow.id_of_ofNode? hr⟩
  rw [List.filter_true, List.filter_true, List.map_map] at hall
  exact hall

theorem Store.Tables.map_id_below (hrows : storeRows [] (g.nodes.map (·.2)) = .ok rows) (p : String) :
    ((t.withNodes rows).below (some p)).map (·.id) = g.idsBelow (some p) :=
  map_filter_rows (storeRows_eq_ok hrows) fun n _ r hr =>
    ⟨by rw [NodeRow.parent_of_ofNode? hr], NodeRow.id_of_ofNode? hr⟩

/-- The rows of a graph whose nodes have identifiers have identifiers of their own. -/
theorem Store.Tables.named_withNodes (hids : ∀ entry ∈ g.nodes, entry.2.id ≠ none)
    (hrows : storeRows [] (g.nodes.map (·.2)) = .ok rows) : (t.withNodes rows).Named where
  distinct := by
    change (rows.map (·.id)).Nodup
    have hnodup := ((storeRows_eq_ok_iff (List.forall_mem_map.mpr hids)).mp ⟨rows, hrows⟩).1
    rw [map_id_of_storeRows hrows]
    rwa [List.map_map] at hnodup
  present r hr := by
    have hmem : r.id ∈ g.nodes.map (·.2.id) := map_id_of_storeRows hrows ▸ List.mem_map_of_mem hr
    obtain ⟨entry, hentry, hid⟩ := List.mem_map.mp hmem
    exact hid ▸ hids entry hentry

end

/-- **Where the readers of a saved graph agree.** The graph has been saved, and its nodes have identifiers. Then all
questions are answered. A node of the loaded graph is the one that is read by itself, unless its identifier is empty and
something hangs below it. The nodes below an identifier that are read together are those that are read one by one if and
only if, for each of them, the identifiers below it survive being joined by commas: none of them holds a comma, and they
are not a single empty one. -/
theorem readers_agree_iff {R : Type} {c c' : Connection R} {g : Graph} (hsave : c.saveGraph g = (.ok (), c'))
    (hids : ∀ entry ∈ g.nodes, entry.2.id ≠ none) :
    ∃ (single : NodeId → Option Node) (loaded : Graph),
      (∀ k, c'.ask (·.node? k) = .ok (single k)) ∧ c'.ask (·.graph) = .ok loaded ∧
      (∀ id : String, Option.Rel Node.Same (loaded.find? (some id)) (single (some id)) ↔
        id ≠ "" ∨ some "" ∉ g.nodes.map (·.2.id) ∨ g.idsBelow (some "") = []) ∧
      ∀ p : String, ∃ together, c'.ask (·.children (some p)) = .ok together ∧
        (SameReadings together ((g.idsBelow (some p)).map single) ↔
          ∀ k ∈ g.idsBelow (some p), Separable (g.idsBelow k).reduceOption) := by
  obtain ⟨rows, hrows, hview, hopen⟩ := Connection.eq_of_saveGraph hsave
  have hnamed : c'.view.Named := hview ▸ Tables.named_withNodes hids hrows
  have hbelow : ∀ p, (c'.view.below (some p)).map (·.id) = g.idsBelow (some p) := hview ▸ Tables.map_id_below hrows
  have hall : c'.view.nodes.map (·.id) = g.nodes.map (·.2.id) := hview ▸ map_id_of_storeRows hrows
  have hask := fun {α : Type} (question : Tables R → α) => Connection.ask_of_isOpen hopen question
  refine ⟨c'.view.node?, c'.view.graph, fun k => hask _, hask _, fun id => ?_, fun p => ⟨_, hask _, ?_⟩⟩
  · rw [hnamed.rel_find?_graph_iff, ← hbelow "", List.map_eq_nil_iff, hall]
  · rw [← hbelow p, hnamed.sameReadings_children_iff, List.forall_mem_map]
    refine forall₂_congr fun r hr => ?_
    obtain ⟨id, hid⟩ := Option.ne_none_iff_exists'.mp (hnamed.present r (Tables.mem_below_iff.mp hr).1)
    rw [hid, hbelow id]

namespace Sample

/-- A directory or a file below a directory. -/
def placed (id kind : String) (parent : NodeId) : NodeId × Node :=
  (some id, { id := some id, name := some id, kind := some kind, parent := parent })

/-- A project with a directory that holds a file, whose name may have a comma. -/
def folderWith (file : String) : Graph :=
  ⟨[placed "." "dir" none, placed "d" "dir" (some "."), placed file "file" (some "d")]⟩

end Sample

/-- A directory holds a file. If the file has a comma in its name, then the directory that is read with all that is in
the project has two children that do not exist, and is not the one that is read by itself. The file that is read with all
that is in the directory is right. Without the comma the directory is right too. -/
theorem readers_differ_at_comma :
    let saved := fun file => (({} : Connection Float).saveGraph (Sample.folderWith file)).2
    let Agree := fun (file parent child : String) => ∃ single together,
      (saved file).ask (·.node? (some child)) = .ok single ∧
        (saved file).ask (·.children (some parent)) = .ok together ∧ SameReadings together [single]
    ¬ Agree "d/a,b.py" "." "d" ∧ Agree "d/a,b.py" "d" "d/a,b.py" ∧ Agree "d/ab.py" "." "d" := by
  intro saved Agree
  have hcomma : ({} : Connection Float).saveGraph (Sample.folderWith "d/a,b.py") = (.ok (), saved "d/a,b.py") := rfl
  have hnone : ({} : Connection Float).saveGraph (Sample.folderWith "d/ab.py") = (.ok (), saved "d/ab.py") := rfl
  obtain ⟨single, -, hsingle, -, -, hbelow⟩ := readers_agree_iff hcomma (by decide)
  obtain ⟨plain, -, hplain, -, -, hbelow'⟩ := readers_agree_iff hnone (by decide)
  refine ⟨?_, ?_, ?_⟩
  · rintro ⟨read, together, hread, htogether, hsame⟩
    obtain ⟨_, htogether', hiff⟩ := hbelow "."
    obtain rfl := Except.ok.inj ((hsingle (some "d")).symm.trans hread)
    obtain rfl := Except.ok.inj (htogether'.symm.trans htogether)
    exact absurd (hiff.mp hsame) (by decide)
  · obtain ⟨together, htogether, hiff⟩ := hbelow "d"
    exact ⟨_, together, hsingle (some "d/a,b.py"), htogether, hiff.mpr (by decide)⟩
  · obtain ⟨together, htogether, hiff⟩ := hbelow' "."
    exact ⟨_, together, hplain (some "d"), htogether, hiff.mpr (by decide)⟩

end CodeAtlas
