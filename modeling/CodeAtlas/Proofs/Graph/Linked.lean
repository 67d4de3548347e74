import Mathlib
import CodeAtlas.Proofs.Graph.Rows

/-!
# Parents and children

A node names the node above it, and lists the nodes below it. The two views agree if the list of every node is, without
repetition, exactly the nodes that name it. A graph in which they agree is linked.

A scan puts nodes one after the other, and appends each of them to the list of the node above it, if that is there
already. A node that is put again starts with an empty list, but its identifier stays in the lists where it was. So the
two views come apart if a node is put again and the node above it is not, or the other way round. This is the only way:
the graph is linked exactly if the nodes come in step with the nodes above them.

## Main definitions

* `Graph.Linked`: the lists of children agree with the parents
* `linkEdits`: the edits that put nodes, each below the node above it
* `InStep`: a node is put again exactly if the node above it is

## Main results

* `find?_linkEdits_iff`: the nodes after nodes were put below the nodes above them
* `linked_iff_inStep`: when the graph is linked
-/

namespace CodeAtlas

/-- The children of every node are, without repetition, the nodes that name it as the node above. -/
def Graph.Linked (g : Graph) : Prop :=
  ∀ k n, g.find? k = some n → n.children.Nodup ∧ ∀ c, c ∈ n.children ↔ ∃ m, g.find? c = some m ∧ m.parent = k

/-- The edits that put nodes, each below the node above it. -/
def linkEdits (ns : List Node) : List Edit :=
  ns.flatMap fun n => [.put n.id n, .attach n.parent n.id]

/-- The identifiers of the nodes that name a key as the node above, in order. -/
def namedBelow (k : NodeId) (ns : List Node) : List NodeId :=
  (ns.filter (·.parent = k)).map (·.id)

/-- Nodes come in step with the nodes above them: if the node above is there at all, a node is put again later exactly
if the node above it is. -/
def InStep (ns : List Node) : Prop :=
  ∀ n later, (n :: later) <:+ ns → n.parent ∈ ns.map (·.id) →
    (n.id ∈ later.map (·.id) ↔ n.parent ∈ later.map (·.id))

instance (ns : List Node) : Decidable (InStep ns) :=
  decidable_of_iff (∀ rest ∈ ns.tails, ∀ n ∈ rest.head?, n.parent ∈ ns.map (·.id) →
      (n.id ∈ rest.tail.map (·.id) ↔ n.parent ∈ rest.tail.map (·.id)))
    ⟨fun h n later hsuffix => h (n :: later) ((List.mem_tails _ _).mpr hsuffix) n rfl,
      fun h rest hrest n hn => by
        obtain ⟨later, rfl⟩ := List.head?_eq_some_iff.mp hn
        exact h n later ((List.mem_tails _ _).mp hrest)⟩

/-! ## The identifiers below a key -/

theorem namedBelow_cons (k : NodeId) (n : Node) (ns : List Node) :
    namedBelow k (n :: ns) = if n.parent = k then n.id :: namedBelow k ns else namedBelow k ns := by
  by_cases h : n.parent = k
  · simp [namedBelow, h]
  · simp [namedBelow, h]

theorem namedBelow_append (k : NodeId) (ms ns : List Node) :
    namedBelow k (ms ++ ns) = namedBelow k ms ++ namedBelow k ns := by
  simp [namedBelow]

theorem mem_namedBelow {k c : NodeId} {ns : List Node} :
    c ∈ namedBelow k ns ↔ ∃ n ∈ ns, n.parent = k ∧ n.id = c := by
  simp [namedBelow, and_assoc]

/-! ## The last node with an identifier -/

/-- The last node with an identifier, and those after it. -/
def IsLast (k : NodeId) (n : Node) (later ns : List Node) : Prop :=
  (n :: later) <:+ ns ∧ n.id = k ∧ k ∉ later.map (·.id)

theorem exists_isLast {k : NodeId} {ns : List Node} (h : k ∈ ns.map (·.id)) : ∃ n later, IsLast k n later ns := by
  induction ns with
  | nil => cases h
  | cons m ns ih =>
    by_cases hns : k ∈ ns.map (·.id)
    · obtain ⟨n, later, hsuffix, hlast⟩ := ih hns
      exact ⟨n, later, hsuffix.trans (List.suffix_cons m ns), hlast⟩
    · rw [List.map_cons, List.mem_cons] at h
      exact ⟨m, ns, List.suffix_refl _, (h.resolve_right hns).symm, hns⟩

theorem IsLast.mem {k : NodeId} {n : Node} {later ns : List Node} (h : IsLast k n later ns) : k ∈ ns.map (·.id) :=
  List.mem_map.mpr ⟨n, h.1.subset List.mem_cons_self, h.2.1⟩

/-- Of two places in a list, one comes first: either is the same as the other, or among what follows it. -/
theorem suffix_cases {n m : Node} {after behind ns : List Node} (hn : (n :: after) <:+ ns) (hm : (m :: behind) <:+ ns) :
    (m :: behind) <:+ after ∨ (n :: after) <:+ (m :: behind) := by
  rcases List.suffix_or_suffix_of_suffix hm hn with h | h
  · rcases List.suffix_cons_iff.mp h with heq | h
    · exact Or.inr (heq ▸ List.suffix_refl _)
    · exact Or.inl h
  · exact Or.inr h

theorem mem_ids_of_suffix {m : Node} {behind later : List Node} (h : (m :: behind) <:+ later) :
    m.id ∈ later.map (·.id) :=
  List.mem_map.mpr ⟨m, h.subset List.mem_cons_self, rfl⟩

theorem mem_ids_mono {ms ns : List Node} (h : ms <:+ ns) {k : NodeId} (hk : k ∈ ms.map (·.id)) : k ∈ ns.map (·.id) :=
  (h.map (·.id)).subset hk

/-! ## The nodes after nodes were put -/

/-- Nodes that are put elsewhere only add to the children of a node. -/
theorem find?_linkEdits_of_not_mem {k : NodeId} {ns : List Node} (h : k ∉ ns.map (·.id)) (g : Graph) :
    (g.applyAll (linkEdits ns)).find? k =
      (g.find? k).map fun m => { m with children := m.children ++ namedBelow k ns } := by
  induction ns generalizing g with
  | nil =>
    have hid : (fun m : Node => { m with children := m.children ++ namedBelow k [] }) = id :=
      funext fun m => by simp [namedBelow]
    rw [hid, Option.map_id]
    rfl
  | cons n ns ih =>
    rw [List.map_cons, List.mem_cons, not_or] at h
    change (((g.put n.id n).modifyChildren n.parent (· ++ [n.id])).applyAll (linkEdits ns)).find? k = _
    rw [ih h.2, Graph.find?_modifyChildren, Graph.find?_put, if_neg h.1, Option.map_map, namedBelow_cons]
    congr 1
    funext m
    by_cases hparent : n.parent = k
    · simp [hparent]
    · simp [hparent, Ne.symm hparent]

section Link

variable {ns : List Node} (hbare : ∀ n ∈ ns, n.children = [])

include hbare

/-- The node under a key is the last one with this identifier. Its children are the nodes that were put below it from
then on. -/
theorem find?_linkEdits_of_isLast {k : NodeId} {n : Node} {later : List Node} (h : IsLast k n later ns) :
    (Graph.empty.applyAll (linkEdits ns)).find? k = some { n with children := namedBelow k (n :: later) } := by
  obtain ⟨⟨before, rfl⟩, rfl, hlater⟩ := h
  have hempty : n.children = [] := hbare n (List.mem_append_right _ List.mem_cons_self)
  have happly : Graph.empty.applyAll (linkEdits (before ++ n :: later)) =
      ((((Graph.empty.applyAll (linkEdits before)).put n.id n).modifyChildren n.parent (· ++ [n.id])).applyAll
        (linkEdits later)) := by
    rw [linkEdits, List.flatMap_append, Graph.applyAll, List.foldl_append]
    rfl
  rw [happly, find?_linkEdits_of_not_mem hlater, Graph.find?_modifyChildren, Graph.find?_put, if_pos rfl,
    namedBelow_cons]
  by_cases hparent : n.parent = n.id
  · simp [hparent, hempty]
  · simp [hparent, Ne.symm hparent, hempty]

theorem find?_linkEdits_iff {k : NodeId} {m : Node} :
    (Graph.empty.applyAll (linkEdits ns)).find? k = some m ↔
      ∃ n later, IsLast k n later ns ∧ m = { n with children := namedBelow k (n :: later) } := by
  constructor
  · intro hm
    have hmem : k ∈ ns.map (·.id) := by
      by_contra hnot
      rw [find?_linkEdits_of_not_mem hnot] at hm
      cases hm
    obtain ⟨n, later, hlast⟩ := exists_isLast hmem
    rw [find?_linkEdits_of_isLast hbare hlast] at hm
    exact ⟨n, later, hlast, (Option.some.inj hm).symm⟩
  · rintro ⟨n, later, hlast, rfl⟩
    exact find?_linkEdits_of_isLast hbare hlast

omit hbare in
/-- If nodes come in step, then from a place on, after which a key is not put any more, the identifiers below the key
are those of the last nodes that name it. -/
theorem InStep.namedBelow_spec (h : InStep ns) {k : NodeId} (hk : k ∈ ns.map (·.id)) {rest : List Node}
    (hsuffix : rest <:+ ns) (hlater : k ∉ rest.tail.map (·.id)) :
    (namedBelow k rest).Nodup ∧
      ∀ c, c ∈ namedBelow k rest ↔ ∃ n later, IsLast c n later rest ∧ n.parent = k := by
  induction rest with
  | nil => simp [namedBelow, IsLast]
  | cons m rest ih =>
    have htail : k ∉ rest.tail.map (·.id) := fun hm => hlater (mem_ids_mono (List.tail_suffix rest) hm)
    obtain ⟨hnodup, hmem⟩ := ih ((List.suffix_cons m rest).trans hsuffix) htail
    -- what is last in the rest is last here, and what is last here is the first node or last in the rest
    have hlast : ∀ c, (∃ n later, IsLast c n later (m :: rest) ∧ n.parent = k) ↔
        (m.id = c ∧ c ∉ rest.map (·.id) ∧ m.parent = k) ∨ ∃ n later, IsLast c n later rest ∧ n.parent = k := by
      intro c
      constructor
      · rintro ⟨n, later, ⟨hsub, hid, hnot⟩, hparent⟩
        rcases List.suffix_cons_iff.mp hsub with heq | hsub
        · obtain ⟨rfl, rfl⟩ := List.cons.inj heq
          exact Or.inl ⟨hid, hnot, hparent⟩
        · exact Or.inr ⟨n, later, ⟨hsub, hid, hnot⟩, hparent⟩
      · rintro (⟨hid, hnot, hparent⟩ | ⟨n, later, ⟨hsub, hid, hnot⟩, hparent⟩)
        · exact ⟨m, rest, ⟨List.suffix_refl _, hid, hnot⟩, hparent⟩
        · exact ⟨n, later, ⟨hsub.trans (List.suffix_cons m rest), hid, hnot⟩, hparent⟩
    rw [namedBelow_cons]
    by_cases hparent : m.parent = k
    · -- the key is not put any more, so neither is this node
      have honce : m.id ∉ rest.map (·.id) := by
        rw [h m rest hsuffix (hparent ▸ hk), hparent]
        exact hlater
      rw [if_pos hparent]
      constructor
      · refine List.nodup_cons.mpr ⟨fun hm => honce ?_, hnodup⟩
        obtain ⟨n, hn, -, hid⟩ := mem_namedBelow.mp hm
        exact List.mem_map.mpr ⟨n, hn, hid⟩
      · intro c
        rw [List.mem_cons, hmem, hlast]
        refine or_congr ⟨fun hc => ?_, fun hc => hc.1.symm⟩ Iff.rfl
        exact ⟨hc.symm, hc ▸ honce, hparent⟩
    · rw [if_neg hparent]
      refine ⟨hnodup, fun c => ?_⟩
      rw [hmem, hlast]
      simp [hparent]

theorem inStep_of_linked (hlinked : (Graph.empty.applyAll (linkEdits ns)).Linked) : InStep ns := by
  intro n later hn hparent
  obtain ⟨p, behind, hp⟩ := exists_isLast hparent
  obtain ⟨hnodup, hchildren⟩ := hlinked _ _ (find?_linkEdits_of_isLast hbare hp)
  simp only at hnodup hchildren
  constructor
  · -- a node that is put again would be listed twice
    intro hagain
    by_contra hgone
    have hlisted : (n :: later) <:+ (p :: behind) := by
      rcases suffix_cases hn hp.1 with hsub | hsub
      · exact absurd (hp.2.1 ▸ mem_ids_of_suffix hsub) hgone
      · exact hsub
    obtain ⟨between, hbetween⟩ := hlisted
    rw [← hbetween, namedBelow_append, namedBelow_cons, if_pos rfl] at hnodup hchildren
    obtain ⟨m, hm, hmparent⟩ := (hchildren n.id).mp (by simp)
    obtain ⟨n', later', hsub, hid, hnot⟩ := exists_isLast hagain
    have hlast : IsLast n.id n' later' ns :=
      ⟨hsub.trans ((List.suffix_cons n later).trans hn), hid, hnot⟩
    rw [find?_linkEdits_of_isLast hbare hlast] at hm
    obtain rfl := Option.some.inj hm
    have hsecond : n.id ∈ namedBelow n.parent later :=
      mem_namedBelow.mpr ⟨n', hsub.subset List.mem_cons_self, hmparent, hid⟩
    exact (List.nodup_cons.mp (List.nodup_append.mp hnodup).2.1).1 hsecond
  · -- a node that is not put again would be missing from the list of the node above it, which starts anew
    intro hreset
    by_contra honce
    have hlast : IsLast n.id n later ns := ⟨hn, rfl, honce⟩
    have hlisted := (hchildren n.id).mpr ⟨_, find?_linkEdits_of_isLast hbare hlast, rfl⟩
    obtain ⟨n', hn', -, hid⟩ := mem_namedBelow.mp hlisted
    have hbehind : (p :: behind) <:+ later := by
      rcases suffix_cases hn hp.1 with hsub | hsub
      · exact hsub
      · rcases List.suffix_cons_iff.mp hsub with heq | hsub
        · exact absurd ((List.cons.inj heq).2 ▸ hreset) hp.2.2
        · exact absurd (mem_ids_mono ((List.suffix_cons n later).trans hsub) hreset) hp.2.2
    exact honce (List.mem_map.mpr ⟨n', hbehind.subset hn', hid⟩)

theorem linked_of_inStep (hstep : InStep ns) : (Graph.empty.applyAll (linkEdits ns)).Linked := by
  intro k m hm
  obtain ⟨p, behind, hp, rfl⟩ := (find?_linkEdits_iff hbare).mp hm
  obtain ⟨hnodup, hmem⟩ := hstep.namedBelow_spec hp.mem hp.1 (by simpa using hp.2.2)
  refine ⟨hnodup, fun c => ?_⟩
  simp only [hmem]
  constructor
  · rintro ⟨n, later, ⟨hsub, hlast⟩, hparent⟩
    exact ⟨_, find?_linkEdits_of_isLast hbare ⟨hsub.trans hp.1, hlast⟩, hparent⟩
  · rintro ⟨m, hm, hparent⟩
    obtain ⟨n, later, hn, rfl⟩ := (find?_linkEdits_iff hbare).mp hm
    -- had the key been put again after the last node that names it, that node would have been put again as well
    rcases suffix_cases hn.1 hp.1 with hsub | hsub
    · have hreset : k ∈ later.map (·.id) := hp.2.1 ▸ mem_ids_of_suffix hsub
      have hagain := (hstep n later hn.1 (hparent ▸ hp.mem)).mpr (hparent ▸ hreset)
      exact absurd (hn.2.1 ▸ hagain) hn.2.2
    · exact ⟨n, later, ⟨hsub, hn.2⟩, hparent⟩

/-- **When the graph is linked**: exactly if the nodes come in step with the nodes above them. -/
theorem linked_iff_inStep : (Graph.empty.applyAll (linkEdits ns)).Linked ↔ InStep ns :=
  ⟨inStep_of_linked hbare, linked_of_inStep hbare⟩

end Link

end CodeAtlas
