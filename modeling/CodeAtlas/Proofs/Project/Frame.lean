import Mathlib
import CodeAtlas.Proofs.Project.Paths

/-!
# What adding a file changes

To add a file again, its nodes are removed one by one, each with its first mention in the list of the node above it, and
then its nodes are put at the end. The lists of declarations go away with the nodes that hold them, since a declaration
and the node above it belong to the same file. So outside of the file only its directory changes: the file was listed
there once at most, and is now the last one in its list.

The nodes that are put depend only on the content of the file. So a file that is added again without a change leaves the
graph as it is, with all its nodes in order.

## Main definitions

* `directoryOf`: the identifier of the directory of a file
* `Graph.without`: a graph without the nodes of a file
* `Source.fileGraph`: the graph of a file alone

## Main results

* `Graph.nodes_applyAll_removal`: what is left when nodes are removed one by one
* `Graph.Filed.applyAll_removeFile`: the graph after a file was removed
* `Graph.applyAll_fileEdits`: the graph after a file was put
* `Graph.Filed.grow_add`, `Graph.Filed.grow_add_again`: the graph after a file was added, once and twice
* `add_changes_one_file`: to add a file changes the file and the list of its directory
-/

namespace CodeAtlas

namespace Graph

theorem eq_of_nodes_eq {g k : Graph} (h : g.nodes = k.nodes) : g = k := by
  cases g
  cases k
  exact congrArg mk h

/-- A node under a key with its list changed, if it is the key to be changed. -/
def relist (key : NodeId) (f : List NodeId → List NodeId) (x : NodeId × Node) : NodeId × Node :=
  if x.1 = key then (x.1, { x.2 with children := f x.2.children }) else x

theorem nodes_modifyChildren (g : Graph) (key : NodeId) (f : List NodeId → List NodeId) :
    (g.modifyChildren key f).nodes = g.nodes.map (relist key f) := rfl

@[simp] theorem relist_fst (key : NodeId) (f : List NodeId → List NodeId) (x : NodeId × Node) :
    (relist key f x).1 = x.1 := by
  rw [relist]
  split <;> rfl

/-! ## Removing nodes one by one -/

/-- The keys among some nodes that name a key as the node above. -/
def listedBelow (k : NodeId) (xs : List (NodeId × Node)) : List NodeId :=
  (xs.filter fun x => x.2.parent?.any fun p => some p == k).map Prod.fst

theorem mem_listedBelow {k c : NodeId} {xs : List (NodeId × Node)} :
    c ∈ listedBelow k xs ↔ ∃ m, (c, m) ∈ xs ∧ ∃ p, m.parent = some p ∧ p ≠ "" ∧ some p = k := by
  have hnamed : ∀ m : Node,
      (m.parent?.any fun p => some p == k) = true ↔ ∃ p, m.parent = some p ∧ p ≠ "" ∧ some p = k := by
    intro m
    cases hparent : m.parent with
    | none => simp [Node.parent?, hparent]
    | some p => by_cases hp : p = "" <;> simp [Node.parent?, hparent, hp]
  simp only [listedBelow, List.mem_map, List.mem_filter, hnamed, Prod.exists]
  constructor
  · rintro ⟨_, m, hm, rfl⟩
    exact ⟨m, hm⟩
  · rintro ⟨m, hm⟩
    exact ⟨c, m, hm, rfl⟩

/-- What is left of a node under a key when some nodes are removed. -/
def remaining (xs : List (NodeId × Node)) (y : NodeId × Node) : Option (NodeId × Node) :=
  if (xs.map Prod.fst).contains y.1 then none
  else some (y.1, { y.2 with children := y.2.children.diff (listedBelow y.1 xs) })

theorem listedBelow_cons (k : NodeId) (x : NodeId × Node) (xs : List (NodeId × Node)) :
    listedBelow k (x :: xs) = listedBelow k [x] ++ listedBelow k xs := by
  rw [listedBelow, ← List.singleton_append, List.filter_append, List.map_append]
  rfl

theorem remaining_cons (x : NodeId × Node) (xs : List (NodeId × Node)) (y : NodeId × Node) :
    remaining (x :: xs) y = (remaining [x] y).bind (remaining xs) := by
  by_cases hx : y.1 = x.1
  · simp [remaining, hx]
  · by_cases hxs : y.1 ∈ xs.map Prod.fst
    · simp [remaining, hx, hxs]
    · simp only [remaining, List.contains_iff_mem, List.map_cons, List.map_nil, List.mem_cons, hx, hxs,
        List.not_mem_nil, or_self, if_false, Option.bind_some, listedBelow_cons y.1 x xs, List.diff_append]

theorem nodes_applyAll_removal_one (g : Graph) (x : NodeId × Node) :
    (g.applyAll (removal x)).nodes = g.nodes.filterMap (remaining [x]) := by
  obtain ⟨key, n⟩ := x
  cases hparent : n.parent? with
  | none =>
    have hlists : ∀ k, listedBelow k [(key, n)] = [] := by simp [listedBelow, hparent]
    have hnodes : (g.applyAll (removal (key, n))).nodes = g.nodes.filter (·.1 != key) := by
      simp only [removal, hparent]
      rfl
    rw [hnodes, ← List.filterMap_eq_filter]
    refine List.filterMap_congr fun y _ => ?_
    by_cases hy : y.1 = key <;> simp [remaining, hlists, hy, Option.guard]
  | some p =>
    have hlists : ∀ k, listedBelow k [(key, n)] = if k = some p then [key] else [] := by
      intro k
      by_cases hk : k = some p
      · simp [listedBelow, hparent, hk]
      · simp [listedBelow, hparent, hk, Ne.symm hk]
    have hnodes : (g.applyAll (removal (key, n))).nodes =
        (g.modifyChildren (some p) (·.erase key)).nodes.filter (·.1 != key) := by
      simp only [removal, hparent]
      rfl
    rw [hnodes, nodes_modifyChildren, ← List.filterMap_eq_filter, List.filterMap_map]
    refine List.filterMap_congr fun y _ => ?_
    obtain ⟨k, m⟩ := y
    rcases eq_or_ne k key with rfl | hk
    · simp [remaining, Option.guard]
    · rcases eq_or_ne k (some p) with rfl | hp
      · simp [remaining, relist, hlists, hk, Option.guard]
      · simp [remaining, relist, hlists, hp, hk, Option.guard]

/-- **What is left when nodes are removed one by one.** -/
theorem nodes_applyAll_removal (g : Graph) (xs : List (NodeId × Node)) :
    (g.applyAll (xs.flatMap removal)).nodes = g.nodes.filterMap (remaining xs) := by
  induction xs generalizing g with
  | nil => exact (List.filterMap_some (l := g.nodes)).symm
  | cons x xs ih =>
    rw [List.flatMap_cons, applyAll, List.foldl_append]
    change ((g.applyAll (removal x)).applyAll (xs.flatMap removal)).nodes = _
    rw [ih, nodes_applyAll_removal_one, List.filterMap_filterMap]
    exact List.filterMap_congr fun y _ => (remaining_cons x xs y).symm

end Graph

/-! ## Removing a file -/

/-- The identifier of the directory of a file. -/
def directoryOf (rel : String) : NodeId :=
  some (Path.ofString rel).parent.toString

theorem isPath_directoryOf {rel : String} (hrel : ':' ∉ rel.toList) : isPath (directoryOf rel) = true :=
  isPath_some_iff.mpr (Path.colon_not_mem_parent hrel)

/-- A file is not its own directory. -/
theorem directoryOf_ne {rel : String} (hparts : (Path.ofString rel).parts ≠ []) : directoryOf rel ≠ some rel := by
  intro heq
  have hrank := Path.rank_parent_lt hparts
  rw [← heq] at hrank
  exact lt_irrefl _ hrank

/-- To take away elements that are not there changes nothing. -/
theorem diff_of_forall_not_mem {l ds : List NodeId} (h : ∀ d ∈ ds, d ∉ l) : l.diff ds = l := by
  induction ds with
  | nil => rfl
  | cons d ds ih =>
    obtain ⟨hd, hds⟩ := List.forall_mem_cons.mp h
    rw [List.diff_cons, List.erase_of_not_mem hd, ih hds]

theorem not_mem_erase_of_count_le_one {l : List NodeId} {a : NodeId} (honce : l.count a ≤ 1) : a ∉ l.erase a := by
  rw [← List.count_eq_zero, List.count_erase_self]
  omega

/-- To take away one element, which is there once at most, as often as one likes. -/
theorem diff_eq_erase {l ds : List NodeId} {a : NodeId} (honce : l.count a ≤ 1) (hds : ∀ d ∈ ds, d = a)
    (hnil : ds = [] → a ∉ l) : l.diff ds = l.erase a := by
  cases ds with
  | nil => rw [List.erase_of_not_mem (hnil rfl), List.diff_nil]
  | cons d ds =>
    obtain ⟨rfl, hds⟩ := List.forall_mem_cons.mp hds
    have hgone : d ∉ l.erase d := not_mem_erase_of_count_le_one honce
    rw [List.diff_cons, diff_of_forall_not_mem fun c hc => hds c hc ▸ hgone]

namespace Graph

/-- The graph without the nodes of a file. The lists of children stay as they are. -/
def without (g : Graph) (rel : String) : Graph :=
  ⟨g.nodes.filter fun x => !isOf rel x⟩

theorem mem_without {g : Graph} {rel : String} {x : NodeId × Node} :
    x ∈ (g.without rel).nodes ↔ x ∈ g.nodes ∧ isOf rel x = false := by
  rw [without, List.mem_filter, Bool.not_eq_true']

namespace Filed

variable {g : Graph} (h : g.Filed) {rel : String} (hrel : ':' ∉ rel.toList)

include h

theorem legible_of_mem {k : NodeId} {n : Node} (hn : (k, n) ∈ g.nodes) (hk : isPath k = true) :
    ∃ id, k = some id ∧ ':' ∉ id.toList ∧ n.listingPaths.Legible id := by
  have hfind := find?_paths g hk
  rw [find?_of_mem h.each.distinct hn] at hfind
  obtain ⟨id, rfl, hlegible⟩ := h.regular.legible hfind
  exact ⟨id, rfl, isPath_some_iff.mp hk, hlegible⟩

include hrel

/-- **The nodes of a file** are those whose keys tell the file. -/
theorem isOf_iff {k : NodeId} {n : Node} (hn : (k, n) ∈ g.nodes) :
    isOf rel (k, n) = true ↔ k.map fileOf = some rel := by
  have hself : (some rel : NodeId).map fileOf = some rel := congrArg some (fileOf_of_not_mem hrel)
  have hof : isOf rel (k, n) = true ↔ n.filePath = some rel ∨ k = some rel := by simp [isOf]
  rw [hof]
  -- paths tell themselves, and declarations have the file that their keys tell
  cases hpath : isPath k with
  | true =>
    obtain ⟨id, rfl, hid, hlegible⟩ := h.legible_of_mem hn hpath
    rw [Option.map_some, fileOf_of_not_mem hid]
    refine ⟨fun hor => hor.elim (fun hfile => ?_) fun hk => hk, Or.inr⟩
    rcases hlegible.file with ⟨-, hnone⟩ | hown
    · cases hnone.symm.trans hfile
    · rw [← hfile, ← fileOf_of_not_mem hid]
      exact hown.symm
  | false =>
    rw [(h.each.each hn hpath).1]
    exact ⟨fun hor => hor.elim (fun hfile => hfile) fun hk => hk ▸ hself, Or.inl⟩

/-- What a node of a file is listed below is its directory or a node of the file. -/
theorem parent_of_isOf {c : NodeId} {m : Node} (hm : (c, m) ∈ g.nodes) (hof : isOf rel (c, m) = true) {p : String}
    (hparent : m.parent = some p) : c = some rel ∧ some p = directoryOf rel ∨ fileOf p = rel := by
  have hfile := (h.isOf_iff hrel hm).mp hof
  cases hpath : isPath c with
  | true =>
    obtain ⟨id, rfl, hid, hlegible⟩ := h.legible_of_mem hm hpath
    rw [Option.map_some, fileOf_of_not_mem hid] at hfile
    obtain rfl := Option.some.inj hfile
    rcases hlegible.above with ⟨-, hnone⟩ | ⟨q, hq, habove⟩
    · cases hnone.symm.trans hparent
    · rw [← hparent, directoryOf, ← habove.eq_of_path hid]
      exact Or.inl ⟨rfl, hq⟩
  | false =>
    have hsame := (h.each.each hm hpath).2
    rw [hfile, hparent] at hsame
    exact Or.inr (Option.some.inj hsame)

/-- What is listed below a node outside of the file, and goes away with the file, is the file below its directory. -/
theorem eq_of_mem_listedBelow {k c : NodeId} {n : Node} (hn : (k, n) ∈ g.nodes) (hkept : isOf rel (k, n) = false)
    (hc : c ∈ listedBelow k (g.nodes.filter (isOf rel))) : c = some rel ∧ k = directoryOf rel := by
  obtain ⟨m, hmem, p, hparent, -, rfl⟩ := mem_listedBelow.mp hc
  obtain ⟨hm, hof⟩ := List.mem_filter.mp hmem
  rcases h.parent_of_isOf hrel hm hof hparent with hdirectory | hfile
  · exact hdirectory
  · -- the node with the list would belong to the file
    have hown := (h.isOf_iff hrel hn).mpr (congrArg some hfile)
    rw [hkept] at hown
    cases hown

/-- The list of the directory holds the file once at most, and only if the file has a node. -/
theorem directory_list {n : Node} (hn : (directoryOf rel, n) ∈ g.nodes) : n.children.count (some rel) ≤ 1 ∧
    (some rel ∈ n.children → ∃ m, (some rel, m) ∈ g.nodes ∧ m.parent = directoryOf rel) := by
  have hpath : isPath (some rel) = true := isPath_some_iff.mpr hrel
  have hfind := find?_paths g (isPath_directoryOf hrel)
  rw [find?_of_mem h.each.distinct hn] at hfind
  refine ⟨?_, fun hlisted => ?_⟩
  · have honce := h.regular.once hfind hrel
    rwa [Node.listingPaths, List.count_filter hpath] at honce
  · obtain ⟨m, hm, hparent⟩ := h.regular.listed hfind (List.mem_filter.mpr ⟨hlisted, hpath⟩)
    rw [find?_paths g hpath, Option.map_eq_some_iff] at hm
    obtain ⟨m, hm, rfl⟩ := hm
    exact ⟨m, mem_of_find? hm, hparent⟩

/-- The list of a node outside of the file when the file is removed. -/
theorem diff_listedBelow {k : NodeId} {n : Node} (hn : (k, n) ∈ g.nodes) (hkept : isOf rel (k, n) = false) :
    n.children.diff (listedBelow k (g.nodes.filter (isOf rel))) =
      if k = directoryOf rel then n.children.erase (some rel) else n.children := by
  have hbelow : ∀ c ∈ listedBelow k (g.nodes.filter (isOf rel)), c = some rel ∧ k = directoryOf rel :=
    fun c hc => h.eq_of_mem_listedBelow hrel hn hkept hc
  split
  · next hk =>
    subst hk
    -- the list has the file once at most; if it has it, the node of the file is removed, and so is the mention
    obtain ⟨honce, hnode⟩ := h.directory_list hrel hn
    refine diff_eq_erase honce (fun c hc => (hbelow c hc).1) fun hnil hlisted => ?_
    obtain ⟨m, hm, hparent⟩ := hnode hlisted
    have hgoes : (some rel, m) ∈ g.nodes.filter (isOf rel) := List.mem_filter.mpr ⟨hm, by simp [isOf]⟩
    have hmem : some rel ∈ listedBelow (directoryOf rel) (g.nodes.filter (isOf rel)) :=
      mem_listedBelow.mpr ⟨m, hgoes, _, hparent, Path.parent_toString_ne_empty rel, rfl⟩
    rw [hnil] at hmem
    cases hmem
  · next hk => exact diff_of_forall_not_mem fun c hc => absurd (hbelow c hc).2 hk

/-- **The graph after a file was removed.** -/
theorem applyAll_removeFile :
    g.applyAll (g.removeFile rel) = (g.without rel).modifyChildren (directoryOf rel) (·.erase (some rel)) := by
  have hgone : ∀ k n, (k, n) ∈ g.nodes → (k ∈ (g.nodes.filter (isOf rel)).map Prod.fst ↔ isOf rel (k, n) = true) := by
    intro k n hn
    refine ⟨fun hk => ?_, fun hof => List.mem_map.mpr ⟨(k, n), List.mem_filter.mpr ⟨hn, hof⟩, rfl⟩⟩
    obtain ⟨⟨_, m⟩, hm, rfl⟩ := List.mem_map.mp hk
    obtain ⟨hm, hof⟩ := List.mem_filter.mp hm
    exact (h.isOf_iff hrel hn).mpr ((h.isOf_iff hrel hm).mp hof)
  have hwithout : (g.without rel).nodes = g.nodes.filterMap (Option.guard fun x => !isOf rel x) := by
    rw [List.filterMap_eq_filter]
    rfl
  -- both sides keep the same nodes, so that they are compared node by node
  refine eq_of_nodes_eq ?_
  rw [removeFile_eq, nodes_applyAll_removal, nodes_modifyChildren, hwithout, List.map_filterMap]
  refine List.filterMap_congr fun x hx => ?_
  obtain ⟨k, n⟩ := x
  cases hof : isOf rel (k, n) with
  | true => simp [remaining, (hgone k n hx).mpr hof, hof, Option.guard]
  | false =>
    have hstays : k ∉ (g.nodes.filter (isOf rel)).map Prod.fst := fun hk => by
      rw [(hgone k n hx).mp hk] at hof
      cases hof
    rw [remaining, if_neg (mt List.contains_iff_mem.mp hstays), h.diff_listedBelow hrel hx hof]
    rcases eq_or_ne k (directoryOf rel) with rfl | hk
    · simp [hof, relist, Option.guard]
    · simp [hof, hk, relist, Option.guard]

end Filed

end Graph

/-! ## Putting a file -/

/-- The key of the node that an edit changes. -/
def Edit.target : Edit → NodeId
  | .put key _ => key
  | .attach parent _ => parent
  | .detach parent _ => parent
  | .erase key => key

namespace Graph

theorem putNode_append {key : NodeId} {xs : List (NodeId × Node)} (hkey : key ∉ xs.map Prod.fst) (n : Node)
    (ys : List (NodeId × Node)) : putNode key n (xs ++ ys) = xs ++ putNode key n ys := by
  induction xs with
  | nil => rfl
  | cons x xs ih =>
    obtain ⟨hx, hxs⟩ := not_or.mp (mt List.mem_cons.mpr hkey)
    rw [List.cons_append, putNode, if_neg (Ne.symm hx), ih hxs, List.cons_append]

theorem map_relist_of_not_mem {key : NodeId} {xs : List (NodeId × Node)} (hkey : key ∉ xs.map Prod.fst)
    (f : List NodeId → List NodeId) : xs.map (relist key f) = xs := by
  refine (List.map_congr_left fun x hx => if_neg fun heq : x.1 = key => ?_).trans (List.map_id xs)
  exact hkey (heq ▸ List.mem_map_of_mem hx)

theorem modifyChildren_of_not_mem {g : Graph} {key : NodeId} (hkey : key ∉ g.keys) (f : List NodeId → List NodeId) :
    g.modifyChildren key f = g :=
  eq_of_nodes_eq (map_relist_of_not_mem hkey f)

theorem modifyChildren_append (g k : Graph) (key : NodeId) (f : List NodeId → List NodeId) :
    (Graph.mk (g.nodes ++ k.nodes)).modifyChildren key f =
      ⟨(g.modifyChildren key f).nodes ++ (k.modifyChildren key f).nodes⟩ :=
  eq_of_nodes_eq (List.map_append)

/-- An edit of a node behind some others leaves these as they are. -/
theorem apply_append {g k : Graph} {e : Edit} (he : e.target ∉ g.keys) :
    (Graph.mk (g.nodes ++ k.nodes)).apply e = ⟨g.nodes ++ (k.apply e).nodes⟩ := by
  cases e with
  | put key n => exact eq_of_nodes_eq (putNode_append he n k.nodes)
  | attach parent child =>
    have hparent : parent ∉ g.keys := he
    rw [apply, modifyChildren_append, modifyChildren_of_not_mem hparent, apply]
  | detach parent child =>
    have hparent : parent ∉ g.keys := he
    rw [apply, modifyChildren_append, modifyChildren_of_not_mem hparent, apply]
  | erase key =>
    have hkept : g.nodes.filter (·.1 != key) = g.nodes := by
      rw [List.filter_eq_self]
      intro x hx
      exact bne_iff_ne.mpr fun heq => he (heq ▸ List.mem_map_of_mem hx)
    simp only [apply, erase, List.filter_append, hkept]

/-- **Edits of nodes behind some others** leave these as they are. -/
theorem applyAll_append {g k : Graph} {es : List Edit} (hes : ∀ e ∈ es, e.target ∉ g.keys) :
    (Graph.mk (g.nodes ++ k.nodes)).applyAll es = ⟨g.nodes ++ (k.applyAll es).nodes⟩ := by
  induction es generalizing k with
  | nil => rfl
  | cons e es ih =>
    obtain ⟨he, hes⟩ := List.forall_mem_cons.mp hes
    change ((Graph.mk (g.nodes ++ k.nodes)).apply e).applyAll es = _
    rw [apply_append he, ih hes]
    rfl

end Graph

/-- The declarations of a file are put below the file. -/
theorem fileOf_of_mem_outlineEdits {rel : String} (hrel : ':' ∉ rel.toList) {o : Outline} :
    ∀ e ∈ outlineEdits rel o, e.target.map fileOf = some rel := by
  intro e he
  obtain ⟨entity, -, he⟩ := List.mem_flatMap.mp he
  have hfiled := filed_entityNode hrel entity (isPath_entityNodeId rel entity)
  have hid : (entityNode rel entity).id.map fileOf = some rel := congrArg some (fileOf_entityNodeId hrel entity)
  simp only [entityEdits, List.mem_cons, List.not_mem_nil, or_false] at he
  rcases he with rfl | rfl
  · exact hid
  · exact hfiled.2.trans hid

/-- **The graph after a file was put**, if none of its nodes was there: the nodes that were there, with the file at the
end of the list of its directory, and the nodes of the file. -/
theorem Graph.applyAll_fileEdits {g : Graph} {rel : String} (hrel : ':' ∉ rel.toList) {parent : NodeId}
    (hparent : parent ≠ some rel) (hnew : ∀ k ∈ g.keys, k.map fileOf ≠ some rel) (file : Path) (l : Language)
    (o : Outline) :
    g.applyAll (fileEdits file rel parent l o) =
      ⟨(g.modifyChildren parent (· ++ [some rel])).nodes ++
        (empty.applyAll (fileEdits file rel parent l o)).nodes⟩ := by
  have hself : some rel ∉ g.keys := fun hm => hnew _ hm (congrArg some (fileOf_of_not_mem hrel))
  have hown : parent ∉ (empty.put (some rel) (fileNode file rel parent l o)).keys := by
    simpa [put, putNode, empty, keys] using hparent
  -- the file is put behind the other nodes, and the list of its directory is one of theirs
  have hput : g.put (some rel) (fileNode file rel parent l o) =
      ⟨g.nodes ++ (empty.put (some rel) (fileNode file rel parent l o)).nodes⟩ := by
    have happend := putNode_append hself (fileNode file rel parent l o) []
    rw [List.append_nil] at happend
    exact congrArg mk happend
  have hdeclared : ∀ e ∈ outlineEdits rel o, e.target ∉ (g.modifyChildren parent (· ++ [some rel])).keys := by
    intro e he hm
    rw [keys_modifyChildren] at hm
    exact hnew _ hm (fileOf_of_mem_outlineEdits hrel e he)
  change ((g.put _ _).modifyChildren parent (· ++ [some rel])).applyAll (outlineEdits rel o) = _
  rw [hput, modifyChildren_append, modifyChildren_of_not_mem hown, applyAll_append hdeclared]
  change _ = Graph.mk
    (_ ++ (((empty.put _ _).modifyChildren parent (· ++ [some rel])).applyAll (outlineEdits rel o)).nodes)
  rw [modifyChildren_of_not_mem hown]

/-! ## Adding a file -/

/-- The edits that add a file of a project below its directory. -/
def Graph.adding (g : Graph) (s : Source) (disk : Entry) (rel : String) : Edits :=
  g.addFile s disk (Path.ofString rel).parts (s.path.append (Path.ofString rel)) rel (directoryOf rel)

/-- The graph of a file alone, given its content if it may be read. -/
def Source.fileGraph (s : Source) (l : Language) (rel : String) (content : Option ByteArray) : Graph :=
  let file := s.path.append (Path.ofString rel)
  Graph.empty.applyAll (CodeAtlas.fileEdits file rel (directoryOf rel) l (l.outline s.read file content))

theorem filePath_of_mem_fileGraph {s : Source} {l : Language} {rel : String} {content : Option ByteArray} :
    ∀ x ∈ (s.fileGraph l rel content).nodes, x.2.filePath = some rel := by
  have heach : (s.fileGraph l rel content).Each fun _ n => n.filePath = some rel := by
    have hempty : Graph.empty.Each fun _ n => n.filePath = some rel :=
      ⟨List.nodup_nil, fun hm => absurd hm List.not_mem_nil⟩
    refine hempty.applyAll (fun _ hn => hn) fun k n hput => ?_
    rw [fileEdits_eq_linkEdits] at hput
    rcases List.mem_cons.mp (put_mem_linkEdits hput).1 with rfl | hn
    · rfl
    · obtain ⟨e, -, rfl⟩ := List.mem_map.mp hn
      rfl
  exact fun x hx => heach.each hx

namespace Graph

theorem contains_of_mem_keys {g : Graph} {k : NodeId} (hk : k ∈ g.keys) : g.contains k = true := by
  obtain ⟨nodes⟩ := g
  rw [contains, find?_mk]
  change k ∈ nodes.map Prod.fst at hk
  induction nodes with
  | nil => cases hk
  | cons x nodes ih =>
    obtain ⟨j, n⟩ := x
    rw [List.lookup_cons]
    cases hj : k == j with
    | true => rfl
    | false => exact ih ((List.mem_cons.mp hk).resolve_left (by simpa using hj))

/-- The children of the directory of a file, with the file at the end. -/
def listLast (rel : String) (children : List NodeId) : List NodeId :=
  children.erase (some rel) ++ [some rel]

/-- The file stays where it is when it is the last one. -/
theorem listLast_listLast {rel : String} {children : List NodeId} (honce : children.count (some rel) ≤ 1) :
    listLast rel (listLast rel children) = listLast rel children := by
  rw [listLast, listLast, List.erase_append_right _ (not_mem_erase_of_count_le_one honce), List.erase_cons_head,
    List.append_nil]

theorem isOf_relist (rel : String) (key : NodeId) (f : List NodeId → List NodeId) (x : NodeId × Node) :
    isOf rel (relist key f x) = isOf rel x := by
  rw [relist]
  split <;> rfl

theorem modifyChildren_modifyChildren (g : Graph) (key : NodeId) (f h : List NodeId → List NodeId) :
    (g.modifyChildren key f).modifyChildren key h = g.modifyChildren key (h ∘ f) := by
  refine eq_of_nodes_eq ?_
  simp only [nodes_modifyChildren, List.map_map]
  refine List.map_congr_left fun x _ => ?_
  by_cases hx : x.1 = key <;> simp [relist, hx]

namespace Filed

variable {g : Graph} (h : g.Filed) {rel : String} (hrel : ':' ∉ rel.toList) (hparts : (Path.ofString rel).parts ≠ [])

include h hrel

/-- What is left without a file has no key that tells the file. -/
theorem fileOf_of_mem_without : ∀ k ∈ (g.without rel).keys, k.map fileOf ≠ some rel := by
  intro k hk hfile
  obtain ⟨⟨_, n⟩, hn, rfl⟩ := List.mem_map.mp hk
  obtain ⟨hn, hkept⟩ := mem_without.mp hn
  rw [(h.isOf_iff hrel hn).mpr hfile] at hkept
  cases hkept

/-- The file is already the last one in the list of its directory after it was added. -/
theorem modifyChildren_listLast :
    ((g.without rel).modifyChildren (directoryOf rel) (listLast rel)).modifyChildren (directoryOf rel) (listLast rel) =
      (g.without rel).modifyChildren (directoryOf rel) (listLast rel) := by
  rw [modifyChildren_modifyChildren]
  refine eq_of_nodes_eq (List.map_congr_left fun x hx => ?_)
  obtain ⟨k, n⟩ := x
  rcases eq_or_ne k (directoryOf rel) with rfl | hk
  · have honce := (h.directory_list hrel (mem_without.mp hx).1).1
    simp [listLast_listLast honce]
  · simp [hk]

include hparts

/-- The directory of a file does not belong to the file. -/
theorem directory_mem_without (hthere : g.contains (directoryOf rel) = true) :
    directoryOf rel ∈ (g.without rel).keys := by
  obtain ⟨n, hn⟩ := Option.isSome_iff_exists.mp hthere
  have hmem := mem_of_find? hn
  have hkept : isOf rel (directoryOf rel, n) = false := by
    rw [Bool.eq_false_iff, Ne, h.isOf_iff hrel hmem, directoryOf, Option.map_some,
      fileOf_of_not_mem (Path.colon_not_mem_parent hrel)]
    exact directoryOf_ne hparts
  exact List.mem_map.mpr ⟨_, mem_without.mpr ⟨hmem, hkept⟩, rfl⟩

/-- **The graph after a file was added.** -/
theorem grow_add {s : Source} {l : Language} (hl : Language.forPath? (s.path.append (Path.ofString rel)) = some l)
    (disk : Entry) (hthere : g.contains (directoryOf rel) = true) :
    (g.adding s disk rel).failure = none ∧
      g.grow (.add s disk rel) =
        ⟨((g.without rel).modifyChildren (directoryOf rel) (listLast rel)).nodes ++
          (s.fileGraph l rel (disk.readFile s.asUser (Path.ofString rel).parts)).nodes⟩ := by
  generalize hfile : s.path.append (Path.ofString rel) = file at hl
  generalize ho : l.outline s.read file (disk.readFile s.asUser (Path.ofString rel).parts) = o
  have hstays : (g.applyAll (g.removeFile rel)).contains (directoryOf rel) = true := by
    rw [h.applyAll_removeFile hrel]
    refine contains_of_mem_keys ?_
    rw [keys_modifyChildren]
    exact h.directory_mem_without hrel hparts hthere
  have hedits : g.adding s disk rel = .ofList (g.removeFile rel ++ fileEdits file rel (directoryOf rel) l o) := by
    unfold adding addFile
    rw [hfile, hl, ← ho]
    exact if_pos (by rw [hstays, Bool.true_or])
  have hnew : ∀ k ∈ ((g.without rel).modifyChildren (directoryOf rel) (·.erase (some rel))).keys,
      k.map fileOf ≠ some rel := by
    rw [keys_modifyChildren]
    exact h.fileOf_of_mem_without hrel
  rw [hedits]
  refine ⟨rfl, ?_⟩
  change g.applyAll (g.adding s disk rel).list = _
  rw [hedits, Edits.ofList, applyAll, List.foldl_append]
  change (g.applyAll (g.removeFile rel)).applyAll _ = _
  rw [h.applyAll_removeFile hrel, applyAll_fileEdits hrel (directoryOf_ne hparts) hnew, modifyChildren_modifyChildren,
    Source.fileGraph, hfile, ho]
  rfl

/-- The graph that is left without a file that was just added. -/
theorem without_grow_add {s : Source} {l : Language}
    (hl : Language.forPath? (s.path.append (Path.ofString rel)) = some l) (disk : Entry)
    (hthere : g.contains (directoryOf rel) = true) :
    (g.grow (.add s disk rel)).without rel = (g.without rel).modifyChildren (directoryOf rel) (listLast rel) := by
  refine eq_of_nodes_eq ?_
  rw [(h.grow_add hrel hparts hl disk hthere).2, without, List.filter_append]
  have hothers : ∀ x ∈ ((g.without rel).modifyChildren (directoryOf rel) (listLast rel)).nodes,
      (!isOf rel x) = true := by
    rw [nodes_modifyChildren]
    intro x hx
    obtain ⟨y, hy, rfl⟩ := List.mem_map.mp hx
    rw [isOf_relist, (mem_without.mp hy).2]
    rfl
  have hown : ∀ x ∈ (s.fileGraph l rel (disk.readFile s.asUser (Path.ofString rel).parts)).nodes,
      ¬ (!isOf rel x) = true := by
    intro x hx
    simp [isOf, filePath_of_mem_fileGraph x hx]
  rw [List.filter_eq_self.mpr hothers, List.filter_eq_nil_iff.mpr hown, List.append_nil]

/-- The nodes of a file that was just added. -/
theorem filter_grow_add {s : Source} {l : Language}
    (hl : Language.forPath? (s.path.append (Path.ofString rel)) = some l) (disk : Entry)
    (hthere : g.contains (directoryOf rel) = true) :
    (g.grow (.add s disk rel)).nodes.filter (fun x => x.2.filePath == some rel) =
      (s.fileGraph l rel (disk.readFile s.asUser (Path.ofString rel).parts)).nodes := by
  have hothers : ∀ x ∈ ((g.without rel).modifyChildren (directoryOf rel) (listLast rel)).nodes,
      ¬ (x.2.filePath == some rel) = true := by
    rw [← h.without_grow_add hrel hparts hl disk hthere]
    intro x hx hfile
    have hkept := (mem_without.mp hx).2
    simp [isOf, hfile] at hkept
  have hown : ∀ x ∈ (s.fileGraph l rel (disk.readFile s.asUser (Path.ofString rel).parts)).nodes,
      (x.2.filePath == some rel) = true :=
    fun x hx => beq_iff_eq.mpr (filePath_of_mem_fileGraph x hx)
  rw [(h.grow_add hrel hparts hl disk hthere).2, List.filter_append, List.filter_eq_nil_iff.mpr hothers,
    List.filter_eq_self.mpr hown, List.nil_append]

/-- **A file that is added again without a change** leaves the graph as it is. -/
theorem grow_add_again {s : Source} {l : Language}
    (hl : Language.forPath? (s.path.append (Path.ofString rel)) = some l) {disk disk' : Entry}
    (hthere : g.contains (directoryOf rel) = true)
    (hsame : disk'.readFile s.asUser (Path.ofString rel).parts = disk.readFile s.asUser (Path.ofString rel).parts) :
    ((g.grow (.add s disk rel)).adding s disk' rel).failure = none ∧
      (g.grow (.add s disk rel)).grow (.add s disk' rel) = g.grow (.add s disk rel) := by
  have hafter : (g.grow (.add s disk rel)).Filed := h.grow (Growth.hasPlainPaths_add_iff.mpr hrel)
  have hstays : (g.grow (.add s disk rel)).contains (directoryOf rel) = true := by
    refine contains_of_mem_keys ?_
    rw [(h.grow_add hrel hparts hl disk hthere).2, keys, List.map_append]
    refine List.mem_append_left _ ?_
    change directoryOf rel ∈ Graph.keys _
    rw [keys_modifyChildren]
    exact h.directory_mem_without hrel hparts hthere
  -- the equation of the first time holds for the second time as well
  obtain ⟨hdone, heq⟩ := hafter.grow_add hrel hparts hl disk' hstays
  refine ⟨hdone, ?_⟩
  rw [heq, h.without_grow_add hrel hparts hl disk hthere, h.modifyChildren_listLast hrel, hsame]
  exact (h.grow_add hrel hparts hl disk hthere).2.symm

end Filed

end Graph

/-- **Adding a file changes one file.** A graph has grown in any steps in which no path has a colon, and it has the
directory of a source file. Then the file can be added. All nodes of other files and all directories stay as they are and
where they are, only the directory of the file, which listed it once at most, now lists it last. Behind them stand the
nodes of the file, the only ones that belong to it, and they depend only on its content. To add it again with the same
content changes nothing. -/
theorem add_changes_one_file {steps : List Growth} (h : ∀ step ∈ steps, step.hasPlainPaths = true) {s : Source}
    {l : Language} {rel : String} (hrel : ':' ∉ rel.toList) (hparts : (Path.ofString rel).parts ≠ [])
    (hl : Language.forPath? (s.path.append (Path.ofString rel)) = some l) (disk : Entry)
    (hthere : (Graph.empty.growAll steps).contains (directoryOf rel) = true) :
    let g := Graph.empty.growAll steps
    let after := g.grow (.add s disk rel)
    let content := disk.readFile s.asUser (Path.ofString rel).parts
    (g.adding s disk rel).failure = none ∧
      after.nodes = ((g.without rel).modifyChildren (directoryOf rel) (Graph.listLast rel)).nodes ++
        (s.fileGraph l rel content).nodes ∧
      (∀ n, g.find? (directoryOf rel) = some n → n.children.count (some rel) ≤ 1) ∧
      after.nodes.filter (fun x => x.2.filePath == some rel) = (s.fileGraph l rel content).nodes ∧
      ∀ disk', disk'.readFile s.asUser (Path.ofString rel).parts = content →
        (after.adding s disk' rel).failure = none ∧ after.grow (.add s disk' rel) = after := by
  have hg : (Graph.empty.growAll steps).Filed := Graph.filed_empty.growAll h
  obtain ⟨hdone, heq⟩ := hg.grow_add hrel hparts hl disk hthere
  refine ⟨hdone, ?_, fun n hn => (hg.directory_list hrel (Graph.mem_of_find? hn)).1,
    hg.filter_grow_add hrel hparts hl disk hthere, fun disk' hsame => hg.grow_add_again hrel hparts hl hthere hsame⟩
  rw [heq]

/-- In the example a file is added again that now declares another function, and declares it twice. It goes to the end
of the list of its directory and of the graph. When a file comes beside it, to add it once more changes nothing. -/
theorem file_added_last_sample :
    let g := Graph.empty.growAll Sample.regrowth
    let disk := Sample.folder [("lib", Sample.folder [("a.py", Sample.file "load load")])]
    let disk' := Sample.folder [("lib", Sample.folder [("a.py", Sample.file "load load"), ("c.py", Sample.file "x")])]
    let after := g.grow (.add Sample.words disk "lib/a.py")
    (g.find? (some "lib")).map (·.children) = some [some "lib/a.py", some "lib/b.py"] ∧
      (after.find? (some "lib")).map (·.children) = some [some "lib/b.py", some "lib/a.py"] ∧
      g.keys =
        [".", "lib", "lib/a.py", "lib/a.py:fetch", "lib/new", "gone/d.py", "lib/b.py", "lib/b.py:save"].map some ∧
      after.keys =
        [".", "lib", "lib/new", "gone/d.py", "lib/b.py", "lib/b.py:save", "lib/a.py", "lib/a.py:load"].map some ∧
      after.grow (.add Sample.words disk' "lib/a.py") = after := by
  intro g disk disk' after
  have hplain : ∀ step ∈ Sample.regrowth, step.hasPlainPaths = true := by decide +kernel
  have hcolon : ':' ∉ "lib/a.py".toList := by decide
  obtain ⟨l, hl⟩ : ∃ l, Language.forPath? (Sample.words.path.append (Path.ofString "lib/a.py")) = some l :=
    Option.isSome_iff_exists.mp (by decide +kernel)
  obtain ⟨-, -, -, -, hagain⟩ := add_changes_one_file hplain hcolon (by decide +kernel) hl disk (by decide +kernel)
  have hsame : disk'.readFile Sample.words.asUser (Path.ofString "lib/a.py").parts =
      disk.readFile Sample.words.asUser (Path.ofString "lib/a.py").parts := by decide +kernel
  obtain ⟨hbefore, hafter, hkeys, hkeys'⟩ :
      (g.find? (some "lib")).map (·.children) = some [some "lib/a.py", some "lib/b.py"] ∧
        (after.find? (some "lib")).map (·.children) = some [some "lib/b.py", some "lib/a.py"] ∧
        g.keys =
          [".", "lib", "lib/a.py", "lib/a.py:fetch", "lib/new", "gone/d.py", "lib/b.py", "lib/b.py:save"].map some ∧
        after.keys =
          [".", "lib", "lib/new", "gone/d.py", "lib/b.py", "lib/b.py:save", "lib/a.py", "lib/a.py:load"].map some := by
    decide +kernel
  exact ⟨hbefore, hafter, hkeys, hkeys', (hagain disk' hsame).2⟩

end CodeAtlas
