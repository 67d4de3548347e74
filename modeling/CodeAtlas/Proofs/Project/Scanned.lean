import Mathlib
import CodeAtlas.Proofs.Graph.Linked
import CodeAtlas.Proofs.Graph.Owned
import CodeAtlas.Proofs.Project.Scan

/-!
# The nodes of a scan

Whatever a project holds, whoever reads it and whichever patterns are left out, a scan puts its nodes one after the
other, each below the node above it. A node comes without children and stands under an identifier that belongs to its
path. So the graph of a scan is owned. With the usual patterns a scan does not fail.

## Main definitions

* `Node.Fresh`: a node as a scan puts it
* `Edit.puts`: the nodes that edits put

## Main results

* `applyAll_buildEdits_eq`: a scan puts nodes below the nodes above them
* `fresh_of_mem_puts_buildEdits`: the nodes of a scan are fresh
* `owned_applyAll_buildEdits`: the graph of a scan is owned
* `failure_buildEdits`: a scan with the usual patterns does not fail
-/

namespace CodeAtlas

open Store

/-! ## Fresh nodes -/

/-- A node as a scan puts it: it has no children, and its identifier is there and belongs to its path. -/
def Node.Fresh (n : Node) : Prop :=
  n.children = [] ∧ n.id.isSome = true ∧ n.Owned n.id

theorem Node.fresh_folder (key name : String) (parent : NodeId) : (Node.folder (some key) name parent).Fresh :=
  ⟨rfl, rfl, rfl, fun _ hpath => by cases hpath⟩

theorem fresh_fileNode (file : Path) (rel : String) (parent : NodeId) (l : Language) (o : Outline) :
    (fileNode file rel parent l o).Fresh := by
  refine ⟨rfl, rfl, rfl, fun path hpath => Or.inl ?_⟩
  exact hpath

theorem fresh_entityNode (rel : String) (e : Entity) : (entityNode rel e).Fresh := by
  refine ⟨rfl, rfl, rfl, fun path hpath => ?_⟩
  obtain rfl : rel = path := Option.some.inj hpath
  obtain ⟨rest, hrest⟩ := entityNodeId_eq rel e
  exact Or.inr ⟨rest, congrArg some hrest⟩

/-- The nodes of a file. -/
def fileNodes (file : Path) (rel : String) (parent : NodeId) (l : Language) (o : Outline) : List Node :=
  fileNode file rel parent l o :: o.entities.map (entityNode rel)

theorem fileEdits_eq_linkEdits (file : Path) (rel : String) (parent : NodeId) (l : Language) (o : Outline) :
    fileEdits file rel parent l o = linkEdits (fileNodes file rel parent l o) := by
  rw [fileEdits, outlineEdits, fileNodes, linkEdits, List.flatMap_cons, List.flatMap_map]
  rfl

theorem fresh_of_mem_fileNodes {file : Path} {rel : String} {parent : NodeId} {l : Language} {o : Outline} :
    ∀ n ∈ fileNodes file rel parent l o, n.Fresh := by
  intro n hn
  rcases List.mem_cons.mp hn with rfl | hn
  · exact fresh_fileNode file rel parent l o
  · obtain ⟨e, -, rfl⟩ := List.mem_map.mp hn
    exact fresh_entityNode rel e

/-! ## The edits of a scan -/

/-- Edits that put fresh nodes, each below the node above it. -/
def Linking (es : List Edit) : Prop :=
  ∃ ns, es = linkEdits ns ∧ ∀ n ∈ ns, n.Fresh

theorem Linking.nil : Linking [] := ⟨[], rfl, by simp⟩

theorem Linking.append {es fs : List Edit} (hes : Linking es) (hfs : Linking fs) : Linking (es ++ fs) := by
  obtain ⟨ms, rfl, hms⟩ := hes
  obtain ⟨ns, rfl, hns⟩ := hfs
  exact ⟨ms ++ ns, by simp [linkEdits], List.forall_mem_append.mpr ⟨hms, hns⟩⟩

theorem Linking.andThen {a : Edits} {b : Unit → Edits} (ha : Linking a.list) (hb : Linking (b ()).list) :
    Linking (a.andThen b).list := by
  unfold Edits.andThen
  split
  · exact ha
  · exact ha.append hb

section Scan

variable (s : Source) (patterns : List String)

mutual

theorem linking_scanItem : ∀ (e : Entry) (parts : List String) (parent : NodeId) (name : String),
    Linking (scanItem s patterns parts parent name e).list
  | .file content locked, parts, parent, name => by
    unfold scanItem
    simp only
    split
    · exact Linking.nil
    · exact Linking.nil
    · split
      · exact ⟨_, fileEdits_eq_linkEdits _ _ _ _ _, fresh_of_mem_fileNodes⟩
      · exact Linking.nil
  | .folder items locked, parts, parent, name => by
    have hhere : Linking [.put (some (relativeText (parts ++ [name])))
        (.folder (some (relativeText (parts ++ [name]))) name parent),
        .attach parent (some (relativeText (parts ++ [name])))] := by
      refine ⟨[.folder (some (relativeText (parts ++ [name]))) name parent], rfl, fun n hn => ?_⟩
      rw [List.mem_singleton.mp hn]
      exact Node.fresh_folder _ _ _
    unfold scanItem
    simp only
    split
    · exact Linking.nil
    · exact Linking.nil
    · refine Linking.andThen hhere ?_
      split
      · exact Linking.nil
      · exact linking_scanItems items _ _

theorem linking_scanItems : ∀ (items : List (String × Entry)) (parts : List String) (parent : NodeId),
    Linking (scanItems s patterns parts parent items).list
  | [], parts, parent => by
    unfold scanItems
    exact Linking.nil
  | (name, e) :: rest, parts, parent => by
    unfold scanItems
    exact (linking_scanItem e parts parent name).andThen (linking_scanItems rest parts parent)

end

/-- The edits of a scan: the root, and then nodes below the nodes above them. -/
theorem list_buildEdits_eq (disk : Entry) : ∃ ns, (∀ n ∈ ns, n.Fresh) ∧
    (buildEdits s patterns disk).list =
      .put Graph.rootKey (.folder Graph.rootKey s.path.name none) :: linkEdits ns := by
  unfold buildEdits
  rw [Edits.andThen_of_ok rfl]
  split
  · next items _ =>
    obtain ⟨ns, hns, hfresh⟩ := linking_scanItems s (if patterns.isEmpty then defaultExcludes else patterns) items []
      Graph.rootKey
    exact ⟨ns, hfresh, by rw [hns]; rfl⟩
  · exact ⟨[], by simp, rfl⟩

/-! ## The graph of a scan -/

/-- The nodes that some edits put, in order. -/
def Edit.puts (es : List Edit) : List Node :=
  es.filterMap fun
    | .put _ n => some n
    | _ => none

theorem Edit.puts_linkEdits (ns : List Node) : puts (linkEdits ns) = ns := by
  induction ns with
  | nil => rfl
  | cons n ns ih =>
    change n :: puts (linkEdits ns) = _
    rw [ih]

/-- The nodes of a scan are fresh. -/
theorem fresh_of_mem_puts_buildEdits (disk : Entry) : ∀ n ∈ Edit.puts (buildEdits s patterns disk).list, n.Fresh := by
  obtain ⟨ns, hfresh, hlist⟩ := list_buildEdits_eq s patterns disk
  rw [hlist]
  change ∀ n ∈ _ :: Edit.puts (linkEdits ns), n.Fresh
  rw [Edit.puts_linkEdits]
  exact List.forall_mem_cons.mpr ⟨Node.fresh_folder _ _ _, hfresh⟩

/-- **A scan puts nodes below the nodes above them.** Nothing is above the root. -/
theorem applyAll_buildEdits_eq (disk : Entry) : Graph.empty.applyAll (buildEdits s patterns disk).list =
    Graph.empty.applyAll (linkEdits (Edit.puts (buildEdits s patterns disk).list)) := by
  obtain ⟨ns, -, hlist⟩ := list_buildEdits_eq s patterns disk
  -- there is no node without a key, so to attach the root there does nothing
  have hroot : ∀ n : Node, (Graph.empty.put Graph.rootKey n).modifyChildren none (· ++ [Graph.rootKey]) =
      Graph.empty.put Graph.rootKey n := by
    intro n
    simp [Graph.modifyChildren, Graph.modify, Graph.put, Graph.putNode, Graph.empty, Graph.rootKey]
  rw [hlist]
  change (Graph.empty.put Graph.rootKey _).applyAll (linkEdits ns) =
    Graph.empty.applyAll (linkEdits (_ :: Edit.puts (linkEdits ns)))
  rw [Edit.puts_linkEdits]
  change _ = ((Graph.empty.put Graph.rootKey _).modifyChildren none (· ++ [Graph.rootKey])).applyAll (linkEdits ns)
  rw [hroot]

end Scan

theorem put_mem_linkEdits {ns : List Node} {k : NodeId} {n : Node} (h : .put k n ∈ linkEdits ns) : n ∈ ns ∧ k = n.id := by
  obtain ⟨m, hm, h⟩ := List.mem_flatMap.mp h
  simp only [List.mem_cons, List.not_mem_nil, or_false, reduceCtorEq] at h
  obtain ⟨rfl, rfl⟩ := Edit.put.inj h
  exact ⟨hm, rfl⟩

/-- Fresh nodes that are put leave a graph owned. -/
theorem owned_linkEdits {ns : List Node} (h : ∀ n ∈ ns, n.Fresh) {g : Graph} (hg : g.Owned) :
    (g.applyAll (linkEdits ns)).Owned := by
  refine hg.applyAll fun k n hput => ?_
  obtain ⟨hn, rfl⟩ := put_mem_linkEdits hput
  exact (h n hn).2.2

/-- **The graph of a scan is owned.** -/
theorem owned_applyAll_buildEdits (s : Source) (patterns : List String) (disk : Entry) :
    (Graph.empty.applyAll (buildEdits s patterns disk).list).Owned := by
  rw [applyAll_buildEdits_eq]
  exact owned_linkEdits (fresh_of_mem_puts_buildEdits s patterns disk) Graph.owned_empty

/-! ## Failures -/

section Failures

variable (s : Source)

mutual

theorem failure_scanItem : ∀ (e : Entry) (parts : List String) (parent : NodeId) (name : String),
    (scanItem s defaultExcludes parts parent name e).failure = none
  | .file content locked, parts, parent, name => by
    unfold scanItem
    simp only [isExcluded_item]
    cases isExcludedPart name with
    | true => rfl
    | false =>
      simp only
      split <;> rfl
  | .folder items locked, parts, parent, name => by
    unfold scanItem
    simp only [isExcluded_item]
    cases isExcludedPart name with
    | true => rfl
    | false =>
      simp only
      rw [Edits.andThen_of_ok rfl]
      simp only
      split
      · rfl
      · exact failure_scanItems items _ _

theorem failure_scanItems : ∀ (items : List (String × Entry)) (parts : List String) (parent : NodeId),
    (scanItems s defaultExcludes parts parent items).failure = none
  | [], parts, parent => by
    unfold scanItems
    rfl
  | (name, e) :: rest, parts, parent => by
    unfold scanItems
    rw [Edits.andThen_of_ok (failure_scanItem e parts parent name)]
    exact failure_scanItems rest parts parent

end

/-- **A scan with the usual patterns does not fail.** -/
theorem failure_buildEdits (disk : Entry) : (buildEdits s [] disk).failure = none := by
  unfold buildEdits
  rw [Edits.andThen_of_ok rfl]
  simp only [List.isEmpty_nil, if_true]
  split
  · exact failure_scanItems s _ _ _
  · rfl

end Failures

end CodeAtlas
