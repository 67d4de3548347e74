import Mathlib
import CodeAtlas.Proofs.Project.Gathered

/-!
# The databases that runs write

A history of full and incremental runs over any projects, whatever their names and whoever reads them, in which an
incremental run meets the source files and the declarations to bring up to date in any order. All databases of such
histories are lawful: their rows are owned, and no file is recorded twice.

A full run saves the graph of a scan, or leaves the tables as they were. An incremental run stops before anything is
saved, or drops the files that are gone only, or saves what it has gathered; after that only the search index can fail.

## Main definitions

* `Progress.completed`: the tables after an incremental run that ends well
* `Tables.Lawful`: the rows are owned, and no file is recorded twice
* `Written`: the databases that runs can leave

## Main results

* `indexAll_cases`, `indexChangesIn_cases`: how runs end
* `Written.lawful`: all databases are lawful
-/

namespace CodeAtlas

open Store Search

/-! ## Saving -/

theorem Store.NodeRow.ne_logarithmDomain_of_ofNode? {n : Node} {f : Failure} (h : ofNode? n = .error f) :
    f ≠ .logarithmDomain := by
  unfold ofNode? at h
  split at h
  · split at h
    · cases h
    · rw [← Except.error.inj h]
      simp
    · rw [← Except.error.inj h]
      simp
  · rw [← Except.error.inj h]
    simp

/-- Nodes that cannot be stored fail for a reason of their own. -/
theorem Store.ne_logarithmDomain_of_storeRows {ns : List Node} {taken : List String} {f : Failure}
    (h : storeRows taken ns = .error f) : f ≠ .logarithmDomain := by
  induction ns generalizing taken with
  | nil => cases h
  | cons n rest ih =>
    -- the failure is that of the node, a repeated identifier, or the failure of the others
    have hrest : ∀ {taken' : List String} {r : NodeRow}, (storeRows taken' rest).map (r :: ·) = .error f →
        f ≠ .logarithmDomain := by
      intro taken' r hmap
      cases hstored : storeRows taken' rest with
      | ok rows =>
        rw [hstored] at hmap
        cases hmap
      | error f' =>
        rw [hstored] at hmap
        obtain rfl : f' = f := Except.error.inj hmap
        exact ih hstored
    rw [storeRows] at h
    cases hn : NodeRow.ofNode? n with
    | error f' =>
      rw [hn] at h
      rw [← Except.error.inj h]
      exact NodeRow.ne_logarithmDomain_of_ofNode? hn
    | ok r =>
      rw [hn] at h
      simp only at h
      split at h
      · exact hrest h
      · split at h
        · rw [← Except.error.inj h]
          simp
        · exact hrest h

variable {R : Type}

/-- A graph is saved with its rows, or cannot be saved. -/
theorem Store.Connection.saveGraph_cases (limits : Limits) (t : Tables R) (g : Graph) :
    (storeRows [] (g.nodes.map (·.2)) = .ok g.rows ∧
        ({ committed := t, limits } : Connection R).saveGraph g =
          (.ok (), { committed := t.withNodes g.rows, limits })) ∨
      ∃ f, f ≠ .logarithmDomain ∧
        ({ committed := t, limits } : Connection R).saveGraph g = (.error f, { committed := t, limits }) := by
  rw [saveGraph_eq]
  simp only [if_true]
  cases hstored : storeRows [] (g.nodes.map (·.2)) with
  | ok rows =>
    obtain rfl := rows_of_storeRows hstored
    exact Or.inl ⟨rfl, rfl⟩
  | error f => exact Or.inr ⟨f, ne_logarithmDomain_of_storeRows hstored, rfl⟩

section Runs

variable [Scalar R]

/-- **How a full run ends**: it saves the graph of the scan with the digests of its files and the search index of all
rows, or it leaves the tables as they were. -/
theorem indexAll_cases (s : Source) (disk : Entry) (t : Tables R) :
    (∃ stats, storeRows [] ((s.built disk).nodes.map (·.2)) = .ok (s.built disk).rows ∧
        indexAll s disk t = (.ok stats, Session.builtTables
          ((t.withNodes (s.built disk).rows).putDigests (graphDigests disk (s.built disk))))) ∨
      ∃ f, f ≠ .logarithmDomain ∧ indexAll s disk t = (.error f, t) := by
  have hbuild := Session.build_eq
    (c := ⟨(t.withNodes (s.built disk).rows).putDigests (graphDigests disk (s.built disk)), none, true, s.limits⟩)
    rfl rfl
  unfold indexAll
  simp only [failure_buildEdits s disk]
  rw [show Graph.empty.applyAll (buildEdits s [] disk).list = s.built disk from rfl]
  rcases Connection.saveGraph_cases s.limits t (s.built disk) with ⟨hstored, hsave⟩ | ⟨f, hf, hsave⟩
  · refine Or.inl ⟨(s.built disk).stats Graph.rootKey, hstored, ?_⟩
    rw [hsave]
    simp only
    rw [Connection.saveDigests_eq rfl rfl]
    simp only
    rw [hbuild.1, hbuild.2]
    rfl
  · refine Or.inr ⟨f, hf, ?_⟩
    rw [hsave]
    rfl

end Runs

/-! ## Incremental runs -/

namespace Progress

/-- The searched nodes of files that are gone. -/
def removedIds (p : Progress) (t : Tables R) (files : List (List String)) : List NodeId :=
  (goneFiles t files).flatMap (searchedIn p.graph)

/-- By how much the number of searched nodes is taken to change. -/
def delta (p : Progress) (t : Tables R) (files : List (List String)) : Int :=
  p.addedIds.length - (p.removedIds t files).length

/-- The documents that are put into the search index for some identifiers. -/
def documents (p : Progress) (t : Tables R) (files : List (List String)) (changed : List NodeId) : List Document :=
  (chosenRows (p.saved t (goneFiles t files)) changed).map Document.ofRow

/-- The number of searched nodes as the search index takes it to be. -/
def total (p : Progress) (t : Tables R) (files : List (List String)) : Int :=
  (p.saved t (goneFiles t files)).searchable.length + p.delta t files

variable [Scalar R]

/-- The tables after an incremental run that ends well. -/
def completed (p : Progress) (t : Tables R) (files : List (List String)) (changed : List NodeId) : Tables R :=
  { p.saved t (goneFiles t files) with
    terms := termRows (p.documents t files changed)
    rarity := Session.freshRarities (p.documents t files changed) (p.total t files) (p.delta t files) }

/-- **How an incremental run ends** that went through all files. -/
theorem save_cases (p : Progress) (limits : Limits) (files : List (List String)) (changed : List NodeId)
    (t : Tables R) :
    (∃ f, f ≠ .logarithmDomain ∧ (p.save limits files changed t = (.error f, t) ∨
        p.save limits files changed t = (.error f, t.dropFiles (goneFiles t files)))) ∨
      storeRows [] (p.graph.nodes.map (·.2)) = .ok p.graph.rows ∧
        ((∃ changes, p.save limits files changed t = (.ok changes, p.completed t files changed)) ∨
          ∃ f, p.save limits files changed t = (.error f, p.saved t (goneFiles t files)) ∧
            (f = .tooManyVariables ∨ f = .logarithmDomain ∧ p.total t files + 1 ≤ 0)) := by
  unfold save
  simp only
  rw [← goneFiles, Connection.deleteFiles_eq]
  by_cases hmany : limits.maxVariables < 2 * (goneFiles t files).length
  · rw [if_pos hmany]
    exact Or.inl ⟨.tooManyVariables, by simp, Or.inl rfl⟩
  rw [if_neg hmany]
  simp only
  rcases Connection.saveGraph_cases limits (t.dropFiles (goneFiles t files)) p.graph with
    ⟨hstored, hsave⟩ | ⟨f, hf, hsave⟩
  · refine Or.inr ⟨hstored, ?_⟩
    rw [hsave]
    simp only
    rw [Connection.saveDigests_eq rfl rfl]
    simp only
    -- saving the nodes has emptied the search tables
    have hterms : (p.saved t (goneFiles t files)).terms = [] := by rw [Follows.saved_eq]
    have hrarity : (p.saved t (goneFiles t files)).rarity = [] := by rw [Follows.saved_eq]
    rcases updateIndex_of_empty (c := ⟨p.saved t (goneFiles t files), none, true, limits⟩) rfl rfl hterms hrarity
      (p.removedIds t files) changed (p.delta t files) with ⟨hok, hclose⟩ | ⟨f, herror, hclose, hf⟩
    · exact Or.inl ⟨_, Prod.ext (congrArg (Except.map _) hok) hclose⟩
    · exact Or.inr ⟨f, Prod.ext (congrArg (Except.map _) herror) hclose, hf⟩
  · refine Or.inl ⟨f, hf, Or.inr ?_⟩
    rw [hsave]
    rfl

end Progress

variable [Scalar R]

/-- The failure of a run that a file stops. -/
theorem missingNode_of_foldlM {s : Source} {disk : Entry} {known : List (String × String)}
    {files : List (List String)} {p : Progress} {f : Failure}
    (h : files.foldlM (indexFile s disk known) p = .error f) : ∃ id, f = .missingNode id := by
  induction files generalizing p with
  | nil => cases h
  | cons parts rest ih =>
    rw [List.foldlM_cons] at h
    cases hstep : indexFile s disk known p parts with
    | error f' =>
      rw [hstep] at h
      obtain rfl : f' = f := Except.error.inj h
      exact ⟨_, missingNode_of_indexFile hstep⟩
    | ok q =>
      rw [hstep] at h
      exact ih h

theorem owned_of_foldlM {s : Source} {disk : Entry} {known : List (String × String)} {files : List (List String)}
    {p p' : Progress} (hp : p.graph.Owned) (h : files.foldlM (indexFile s disk known) p = .ok p') :
    p'.graph.Owned := by
  induction files generalizing p with
  | nil => rwa [← Except.ok.inj h]
  | cons parts rest ih =>
    obtain ⟨q, hstep, hrest⟩ := exists_of_foldlM_cons h
    exact ih (owned_of_indexFile hp hstep) hrest

/-- **How an incremental run ends** on an owned database, in a project without colons: a file stops it or the nodes
cannot be saved, or else it saves what it has gathered. After that only the search index can fail. -/
theorem indexChangesIn_cases (arrange : List NodeId → List NodeId) (s : Source) {disk : Entry}
    {files : List (List String)} {t : Tables R} (ht : t.Owned) (h : Colonless disk)
    (hfiles : files.Perm (sourceFiles disk)) :
    (∃ f, f ≠ .logarithmDomain ∧ (indexChangesIn arrange s disk files t = (.error f, t) ∨
        indexChangesIn arrange s disk files t = (.error f, t.dropFiles (goneFiles t files)))) ∨
      ∃ p : Progress, p.Gathers s disk t.files t.graph files ∧
        storeRows [] (p.graph.nodes.map (·.2)) = .ok p.graph.rows ∧
        ((∃ changes, indexChangesIn arrange s disk files t =
            (.ok changes, p.completed t files (arrange (p.addedIds ++ p.updatedIds).eraseDups))) ∨
          ∃ f, indexChangesIn arrange s disk files t = (.error f, p.saved t (goneFiles t files)) ∧
            (f = .tooManyVariables ∨ f = .logarithmDomain ∧ p.total t files + 1 ≤ 0)) := by
  unfold indexChangesIn
  cases hrun : files.foldlM (indexFile s disk t.files) { graph := t.graph } with
  | error f =>
    obtain ⟨id, rfl⟩ := missingNode_of_foldlM hrun
    exact Or.inl ⟨_, by simp, Or.inl rfl⟩
  | ok p =>
    have hnodup : ([] ++ files).Nodup := hfiles.nodup_iff.mpr h.nodup
    have G : p.Gathers s disk t.files t.graph files :=
      (Progress.Gathers.refl ht.graph).run h ht.graph (fun _ hm => hfiles.subset hm) hnodup hrun
    refine (p.save_cases s.limits files (arrange (p.addedIds ++ p.updatedIds).eraseDups) t).imp_right ?_
    rintro ⟨hstored, hend⟩
    exact ⟨p, G, hstored, hend⟩

/-! ## Tables that are kept in order -/

namespace Store.Tables

omit [Scalar R]

variable {t : Tables R}

/-- Tables as runs leave them: the rows are owned, and no file is recorded twice. -/
structure Lawful (t : Tables R) : Prop where
  owned : t.Owned
  distinct : (t.files.map (·.1)).Nodup

theorem lawful_empty : ({} : Tables R).Lawful where
  owned := fun _ hr => by cases hr
  distinct := List.nodup_nil

theorem nodup_files_putDigests (h : (t.files.map (·.1)).Nodup) (digests : List (String × String)) :
    ((t.putDigests digests).files.map (·.1)).Nodup := by
  induction digests generalizing t with
  | nil => exact h
  | cons entry rest ih =>
    obtain ⟨path, digest⟩ := entry
    rw [putDigests, List.foldl_cons]
    refine ih ?_
    -- an entry with this path is taken out before the new one is appended
    change ((putLast path digest t.files).map (·.1)).Nodup
    rw [putLast, List.map_append]
    refine ((List.filter_sublist.map _).nodup h).append (List.nodup_singleton _) ?_
    simp

theorem Lawful.dropFiles (h : t.Lawful) (paths : List String) : (t.dropFiles paths).Lawful where
  owned r hr := h.owned r (List.mem_filter.mp hr).1
  distinct := (List.filter_sublist.map _).nodup h.distinct

/-- Saving an owned graph and some digests keeps tables lawful. -/
theorem Lawful.saved (h : t.Lawful) {g : Graph} (hg : g.Owned) (digests : List (String × String)) :
    ((t.withNodes g.rows).putDigests digests).Lawful where
  owned := owned_of_nodes_eq hg (by rw [putDigests_eq]; rfl)
  distinct := nodup_files_putDigests (t := t.withNodes g.rows) h.distinct digests

/-- Other terms and rarities keep tables lawful. -/
theorem Lawful.withIndex (h : t.Lawful) (terms : List (TermRow R)) (rarity : List (String × R)) :
    ({ t with terms := terms, rarity := rarity } : Tables R).Lawful := ⟨h.owned, h.distinct⟩

end Store.Tables

/-- Full runs keep tables lawful. -/
theorem Store.Tables.Lawful.indexAll {t : Tables R} (h : t.Lawful) (s : Source) (disk : Entry) :
    (CodeAtlas.indexAll s disk t).2.Lawful := by
  rcases indexAll_cases s disk t with ⟨stats, -, heq⟩ | ⟨f, -, heq⟩
  · rw [heq]
    exact (h.saved (owned_applyAll_buildEdits s [] disk) _).withIndex _ _
  · rwa [heq]

/-- Incremental runs keep tables lawful. -/
theorem Store.Tables.Lawful.indexChangesIn {t : Tables R} (h : t.Lawful) (arrange : List NodeId → List NodeId)
    (s : Source) (disk : Entry) (files : List (List String)) :
    (CodeAtlas.indexChangesIn arrange s disk files t).2.Lawful := by
  unfold CodeAtlas.indexChangesIn
  split
  · exact h
  · next p hrun =>
    -- whatever the project is like, all nodes that are put on the way are owned
    have hgraph : p.graph.Owned := owned_of_foldlM (p := { graph := t.graph }) h.owned.graph hrun
    have hsaved : (p.saved t (goneFiles t files)).Lawful := (h.dropFiles _).saved hgraph _
    rcases p.save_cases s.limits files (arrange (p.addedIds ++ p.updatedIds).eraseDups) t with
      ⟨f, -, heq | heq⟩ | ⟨-, ⟨changes, heq⟩ | ⟨f, heq, -⟩⟩
    · rwa [heq]
    · rw [heq]
      exact h.dropFiles _
    · rw [heq]
      exact hsaved.withIndex _ _
    · rw [heq]
      exact hsaved

/-! ## Histories -/

/-- The databases that full and incremental runs can leave, starting without one, while the project and the way it is
read change between the runs. All projects have to be `allowed`. A run that fails counts as well. -/
inductive Written (allowed : Entry → Prop) : Option (Tables R) → Prop
  | start : Written allowed none
  | all {t? : Option (Tables R)} (s : Source) {disk : Entry} : Written allowed t? → allowed disk →
      Written allowed (some (indexAll s disk (t?.getD {})).2)
  | changes {t : Tables R} (s : Source) {disk : Entry} {files : List (List String)}
      {arrange : List NodeId → List NodeId} : Written allowed (some t) → allowed disk →
      files.Perm (sourceFiles disk) → (∀ ids, (arrange ids).Perm ids) →
      Written allowed (some (indexChangesIn arrange s disk files t).2)

/-- **All databases are lawful.** -/
theorem Written.lawful {allowed : Entry → Prop} {t? : Option (Tables R)} (H : Written allowed t?) :
    (t?.getD {}).Lawful := by
  induction H with
  | start => exact Tables.lawful_empty
  | all s _ _ ih => exact ih.indexAll s _
  | changes s _ _ _ _ ih => exact ih.indexChangesIn _ s _ _

end CodeAtlas
