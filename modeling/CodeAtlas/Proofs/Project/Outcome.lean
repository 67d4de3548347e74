import Mathlib
import CodeAtlas.Proofs.Project.Run
import CodeAtlas.Proofs.Search.Indexed

/-!
# The tables after a run

A full run always ends well, and its tables have the rows of the scanned project and the digests of its source files;
the digests of other files stay. An incremental run stops before anything is saved, or it saves the rows of its
progress and the digests of all source files, and only the search index can fail after that.

## Main definitions

* `Saves`: what is true after an incremental run that saved what it found

## Main results

* `Indexable.indexAll_eq`: a full run
* `indexChangesAlong_cases`: an incremental run
-/

namespace CodeAtlas

open Store Search

variable {s : Source} {disk : Entry} {parts : List String}

/-! ## Full runs -/

namespace Indexable

theorem relativeText_ne_empty (h : Indexable s disk) (hm : parts ∈ sourceFiles disk) : relativeText parts ≠ "" := by
  intro heq
  have hparts := components_relativeText (isFileName_of_plain (h.plain hm).2)
  rw [heq] at hparts
  exact (h.plain hm).1 hparts.symm

/-- A row of the built graph is a row of a source file or of a directory. -/
theorem row_built_elim (h : Indexable s disk) {k : NodeId} {r : NodeRow} (hr : (s.built disk).row k = some r) :
    (∃ parts ∈ sourceFiles disk, ∃ content, disk.readFile false parts = some content ∧
      s.fileRow parts content k = some r) ∨ IsFolderRow k r := by
  refine (h.row_built_cases hr).imp_left ?_
  rintro ⟨parts, hm, hk⟩
  obtain ⟨content, hread, -⟩ := h.content hm
  exact ⟨parts, hm, content, hread, (h.row_built_of_file hm hread hk).symm.trans hr⟩

theorem shaped_built (h : Indexable s disk) : Shaped (s.built disk).row where
  shape := by
    intro k r hr
    rcases h.row_built_elim hr with ⟨parts, hm, content, -, hfile⟩ | hfolder
    · exact Or.inr (.of_fileRow (h.plain hm).2 hfile)
    · exact Or.inl hfolder
  root := h.row_built_root
  file := by
    intro k r path hr hpath
    rcases h.row_built_elim hr with ⟨parts, hm, content, hread, hfile⟩ | ⟨-, hnone, -⟩
    · have hrel := (Source.fileRow_eq_some (h.plain hm).2 hfile).2.2.1
      obtain rfl : relativeText parts = path := Option.some.inj (hrel.symm.trans hpath)
      obtain ⟨r', hr', hkind⟩ := h.fileRow_self hm hread
      exact ⟨r', (h.row_built_of_file hm hread (h.map_fileOf_self hm)).trans hr', hkind⟩
    · cases hnone.symm.trans hpath

/-- The digests that a full run saves are those of the source files. -/
theorem mem_graphDigests (h : Indexable s disk) {path digest : String} :
    (path, digest) ∈ graphDigests disk (s.built disk) ↔
      ∃ parts ∈ sourceFiles disk, path = relativeText parts ∧ fileDigest? disk parts = some digest := by
  rw [graphDigests, List.mem_filterMap]
  constructor
  · rintro ⟨⟨k, n⟩, hm, hentry⟩
    obtain ⟨r, hr, hok, -, -, hpath⟩ := h.tidy_built.row_of_find? (Graph.find?_of_mem h.tidy_built.distinct hm)
    simp only at hentry
    split at hentry
    · next p hp =>
      split at hentry
      · obtain ⟨d, hd, heq⟩ := Option.map_eq_some_iff.mp hentry
        obtain ⟨rfl, rfl⟩ := Prod.mk.inj heq
        rcases h.row_built_elim hr with ⟨parts, hparts, content, -, hfile⟩ | ⟨-, hnone, -⟩
        · have hrel := (Source.fileRow_eq_some (h.plain hparts).2 hfile).2.2.1
          obtain rfl : relativeText parts = p := Option.some.inj (hrel.symm.trans (hpath.trans hp))
          rw [components_relativeText (isFileName_of_plain (h.plain hparts).2)] at hd
          exact ⟨parts, hparts, rfl, hd⟩
        · cases hnone.symm.trans (hpath.trans hp)
      · cases hentry
    · cases hentry
  · rintro ⟨parts, hparts, rfl, hdigest⟩
    obtain ⟨content, hread, -⟩ := h.content hparts
    obtain ⟨r, hr, hkind⟩ := h.fileRow_self hparts hread
    have hrow : (s.built disk).row (some (relativeText parts)) = some r := by
      rw [h.row_built_of_file hparts hread (h.map_fileOf_self hparts), hr]
    obtain ⟨n, hn, hok, -, -, hpath, -⟩ := h.tidy_built.find?_of_row hrow
    have hfile : n.filePath = some (relativeText parts) :=
      hpath.symm.trans (Source.fileRow_eq_some (h.plain hparts).2 hr).2.2.1
    have hfileKind : n.kind = some Node.fileKind := by rw [NodeRow.kind_of_ofNode? hok, hkind]
    refine ⟨(_, n), Graph.mem_of_find? hn, ?_⟩
    simp only [hfile, hfileKind]
    rw [if_pos (by simpa using h.relativeText_ne_empty hparts),
      components_relativeText (isFileName_of_plain (h.plain hparts).2), hdigest]
    rfl

variable {R : Type} [Scalar R]

/-- **A full run** ends well, whatever the tables were. -/
theorem indexAll_eq (h : Indexable s disk) (t : Tables R) :
    indexAll s disk t = (.ok ((s.built disk).stats Graph.rootKey), Session.builtTables
      ((t.withNodes (s.built disk).rows).putDigests (graphDigests disk (s.built disk)))) := by
  have hfailure : (buildEdits s [] disk).failure = none := by
    rw [buildEdits_eq h.readable_disk]
    rfl
  have hbuild := Session.build_eq
    (c := ⟨(t.withNodes (s.built disk).rows).putDigests (graphDigests disk (s.built disk)), none, true, s.limits⟩)
    rfl rfl
  unfold indexAll
  simp only [hfailure]
  rw [show Graph.empty.applyAll (buildEdits s [] disk).list = s.built disk from rfl,
    Connection.saveGraph_of_tidy h.tidy_built rfl rfl]
  simp only
  rw [Connection.saveDigests_eq rfl rfl]
  simp only
  rw [hbuild.1, hbuild.2]
  rfl

theorem nodes_indexAll (h : Indexable s disk) (t : Tables R) : (indexAll s disk t).2.nodes = (s.built disk).rows := by
  rw [h.indexAll_eq, Tables.putDigests_eq]
  rfl

theorem tidy_indexAll (h : Indexable s disk) (t : Tables R) : (indexAll s disk t).2.Tidy :=
  Tables.tidy_of_nodes_eq h.tidy_built (h.nodes_indexAll t)

theorem row?_indexAll (h : Indexable s disk) (t : Tables R) (k : NodeId) :
    (indexAll s disk t).2.row? k = (s.built disk).row k :=
  Tables.row?_of_nodes_eq h.tidy_built (h.nodes_indexAll t) k

theorem digest?_indexAll (h : Indexable s disk) (t : Tables R) (path : String) :
    (indexAll s disk t).2.digest? path =
      ((t.withNodes (s.built disk).rows).putDigests (graphDigests disk (s.built disk))).digest? path := by
  rw [h.indexAll_eq]
  rfl

/-- After a full run, the digest of a source file is the one that it has now. -/
theorem digest?_indexAll_of_mem (h : Indexable s disk) (t : Tables R) (hm : parts ∈ sourceFiles disk) :
    (indexAll s disk t).2.digest? (relativeText parts) = fileDigest? disk parts := by
  obtain ⟨content, -, hdigest, -⟩ := h.content hm
  rw [h.digest?_indexAll, hdigest]
  refine Tables.digest?_putDigests_of_mem (h.mem_graphDigests.mpr ⟨parts, hm, rfl, hdigest⟩) (fun d hd => ?_) _
  obtain ⟨parts', hm', heq, hdigest'⟩ := h.mem_graphDigests.mp hd
  rw [h.parts_inj hm hm' heq, hdigest'] at hdigest
  exact Option.some.inj hdigest

/-- A full run does not forget the digests of files that are gone. -/
theorem digest?_indexAll_of_not_mem (h : Indexable s disk) (t : Tables R) {path : String}
    (hnot : ∀ parts ∈ sourceFiles disk, path ≠ relativeText parts) :
    (indexAll s disk t).2.digest? path = t.digest? path := by
  rw [h.digest?_indexAll]
  refine Tables.digest?_putDigests_of_not_mem (fun d hd => ?_) _
  obtain ⟨parts, hm, heq, -⟩ := h.mem_graphDigests.mp hd
  exact hnot parts hm heq

theorem searchComplete_indexAll (h : Indexable s disk) (t : Tables R) : (indexAll s disk t).2.SearchComplete := by
  have htidy := h.tidy_indexAll t
  rw [h.indexAll_eq] at htidy ⊢
  exact Session.searchComplete_build ⟨htidy.distinct, htidy.present, htidy.stable⟩

end Indexable

/-! ## Incremental runs -/

theorem Store.Tables.Tidy.shaped_graph {R : Type} {t : Tables R} (ht : t.Tidy) (hshaped : Shaped t.row?) :
    Shaped t.graph.row := by
  rw [show t.graph.row = t.row? from funext ht.row_graph]
  exact hshaped

section Changes

variable {R : Type} {t : Tables R} {files : List (List String)} {p : Progress}

/-- The recorded paths that are not those of some files. -/
def goneFiles (t : Tables R) (files : List (List String)) : List String :=
  (t.files.map (·.1)).filter fun path => !(files.map relativeText).contains path

theorem mem_goneFiles {path : String} :
    path ∈ goneFiles t files ↔ (t.digest? path).isSome = true ∧ ∀ parts ∈ files, path ≠ relativeText parts := by
  rw [goneFiles, List.mem_filter, Tables.mem_map_files, Bool.not_eq_true', ← Bool.not_eq_true, List.contains_iff_mem,
    List.mem_map]
  refine and_congr_right fun _ => ⟨fun hnot parts hm heq => hnot ⟨parts, hm, heq.symm⟩, ?_⟩
  rintro hnot ⟨parts, hm, heq⟩
  exact hnot parts hm heq.symm

/-- The tables with what an incremental run found. -/
def Progress.saved (p : Progress) (t : Tables R) (gone : List String) : Tables R :=
  ((t.dropFiles gone).withNodes p.graph.rows).putDigests p.digests

namespace Progress.Follows

variable (F : Follows s disk t.files t.graph files p) (h : Indexable s disk) (hfiles : files.Perm (sourceFiles disk))

theorem saved_eq (p : Progress) (t : Tables R) (gone : List String) :
    p.saved t gone = { nodes := p.graph.rows, files := (p.saved t gone).files } :=
  Tables.putDigests_eq _ _

include F h hfiles

/-- The rows that an incremental run puts into the search index. -/
theorem mem_chosenRows (ht : t.Tidy) (hshaped : Shaped t.row?) {r : NodeRow} (hr : r ∈ p.graph.rows)
    (hsearch : r.isSearchable = true) :
    r ∈ chosenRows (p.saved t (goneFiles t files)) (p.addedIds ++ p.updatedIds).eraseDups ↔
      ∃ parts ∈ sourceFiles disk, r.filePath = some (relativeText parts) ∧ IsTouched disk t.files parts ∧
        (IsNew t.files parts → t.row? r.id = none) := by
  have hrow := F.rows.tidy.mem_rows.mp hr
  obtain ⟨-, -, -, -, -, -, hsome⟩ := F.rows.tidy.find?_of_row hrow
  rw [Tables.mem_chosenRows, saved_eq, List.mem_eraseDups, List.mem_append,
    F.mem_changed_iff h (ht.shaped_graph hshaped) hrow hsearch, ht.row_graph]
  simp only [hr, hsearch, hsome, true_and, hfiles.mem_iff]

theorem digest?_saved (hm : parts ∈ sourceFiles disk) :
    (p.saved t (goneFiles t files)).digest? (relativeText parts) = fileDigest? disk parts := by
  obtain ⟨content, -, hdigest, -⟩ := h.content hm
  have honly : ∀ {digest}, (relativeText parts, digest) ∈ p.digests → IsTouched disk t.files parts ∧
      fileDigest? disk parts = some digest := by
    intro digest hd
    obtain ⟨parts', hm', ht, heq, hdigest'⟩ := F.digests.mp hd
    obtain rfl := h.parts_inj hm (hfiles.subset hm') heq
    exact ⟨ht, hdigest'⟩
  by_cases ht : IsTouched disk t.files parts
  · rw [hdigest]
    refine Tables.digest?_putDigests_of_mem (F.digests.mpr ⟨parts, hfiles.symm.subset hm, ht, rfl, hdigest⟩) ?_ _
    intro d hd
    exact Option.some.inj ((honly hd).2.symm.trans hdigest)
  · -- an untouched file is neither dropped nor recorded again
    have hkept : relativeText parts ∉ goneFiles t files := fun hgone =>
      (mem_goneFiles.mp hgone).2 parts (hfiles.symm.subset hm) rfl
    refine (Tables.digest?_putDigests_of_not_mem (fun d hd => ht (honly hd).1) _).trans ?_
    refine (Tables.digest?_dropFiles t _ _).trans ?_
    rw [if_neg hkept]
    exact not_not.mp ht

omit h in
theorem digest?_saved_of_not_mem {path : String} (hnot : ∀ parts ∈ sourceFiles disk, path ≠ relativeText parts) :
    (p.saved t (goneFiles t files)).digest? path = none := by
  refine (Tables.digest?_putDigests_of_not_mem (fun d hd => ?_) _).trans ?_
  · obtain ⟨parts, hm, -, heq, -⟩ := F.digests.mp hd
    exact hnot parts (hfiles.subset hm) heq
  · refine (Tables.digest?_dropFiles t _ _).trans ?_
    split
    · rfl
    · next hgone =>
      rw [mem_goneFiles, not_and] at hgone
      by_contra hsome
      exact hgone (Option.isSome_iff_ne_none.mpr hsome) fun parts hm => hnot parts (hfiles.subset hm)

end Progress.Follows

/-- What is true of the outcome and the tables of an incremental run on tables `t` that saved what it found. -/
structure Saves (s : Source) (disk : Entry) (t : Tables R) (result : Except Failure Changes × Tables R) : Prop where
  tidy : result.2.Tidy
  rows : Graph.Follows s disk t.files t.graph (sourceFiles disk) result.2.graph
  digest_of_mem : ∀ {parts}, parts ∈ sourceFiles disk → result.2.digest? (relativeText parts) = fileDigest? disk parts
  digest_of_not_mem : ∀ {path}, (∀ parts ∈ sourceFiles disk, path ≠ relativeText parts) → result.2.digest? path = none
  /-- Only the search index can fail, and it needs a file that is gone to fail for anything but its size. -/
  failure : ∀ {f}, result.1 = .error f → f = .tooManyVariables ∨
    f = .logarithmDomain ∧
      ∃ path, (t.digest? path).isSome = true ∧ ∀ parts ∈ sourceFiles disk, path ≠ relativeText parts
  /-- The rows with terms that are found are those of touched files, under keys that were free if the file is new. -/
  found : ∀ {changes r}, result.1 = .ok changes → r ∈ result.2.nodes → r.isSearchable = true →
    (result.2.Finds r ↔ ((Document.ofRow r).terms ≠ [] → ∃ parts ∈ sourceFiles disk,
      r.filePath = some (relativeText parts) ∧ IsTouched disk t.files parts ∧
        (IsNew t.files parts → t.row? r.id = none)))
  /-- Without touched files, the search tables are empty. -/
  unchanged : ∀ {changes}, result.1 = .ok changes → (∀ parts ∈ sourceFiles disk, ¬ IsTouched disk t.files parts) →
    result.2.terms = [] ∧ result.2.rarity = []

variable [Scalar R]

/-- An incremental run that went through all files fails if too many files are gone, and else saves what it found and
brings the search index up to date. -/
theorem indexChangesAlong_of_ok (hrun : files.foldlM (indexFile s disk t.files) { graph := t.graph } = .ok p)
    (hp : p.graph.Tidy) :
    s.limits.maxVariables < 2 * (goneFiles t files).length ∧
        indexChangesAlong s disk files t = (.error .tooManyVariables, t) ∨
      ∃ removed delta changes, (delta < 0 → goneFiles t files ≠ []) ∧
        indexChangesAlong s disk files t =
          ((updateIndex removed (p.addedIds ++ p.updatedIds).eraseDups delta
              ⟨p.saved t (goneFiles t files), none, true, s.limits⟩).1.map fun _ => changes,
            (updateIndex removed (p.addedIds ++ p.updatedIds).eraseDups delta
              ⟨p.saved t (goneFiles t files), none, true, s.limits⟩).2.close) := by
  unfold indexChangesAlong indexChangesIn
  simp only [hrun]
  unfold Progress.save
  simp only
  rw [← goneFiles, Connection.deleteFiles_eq]
  by_cases hmany : s.limits.maxVariables < 2 * (goneFiles t files).length
  · rw [if_pos hmany]
    exact Or.inl ⟨hmany, rfl⟩
  · rw [if_neg hmany]
    simp only
    rw [Connection.saveGraph_of_tidy hp rfl rfl]
    simp only
    rw [Connection.saveDigests_eq rfl rfl]
    -- the number of declarations is only taken to shrink by those of files that are gone
    refine Or.inr ⟨_, _, _, fun hdelta hnil => ?_, rfl⟩
    rw [hnil, List.flatMap_nil, List.length_nil] at hdelta
    omega

theorem Saves.of_saved (h : Indexable s disk) (ht : t.Tidy) (hshaped : Shaped t.row?)
    (hfiles : files.Perm (sourceFiles disk)) (F : Progress.Follows s disk t.files t.graph files p)
    {outcome : Except Failure Changes} {terms : List (TermRow R)} {rarity : List (String × R)}
    (hfail : ∀ f, outcome = .error f → f = .tooManyVariables ∨ f = .logarithmDomain ∧ goneFiles t files ≠ [])
    (hok : ∀ changes, outcome = .ok changes →
      terms = termRows ((chosenRows (p.saved t (goneFiles t files)) (p.addedIds ++ p.updatedIds).eraseDups).map
        Document.ofRow) ∧
      ∀ term, term ∈ rarity.map (·.1) ↔ term ∈ allTerms ((chosenRows (p.saved t (goneFiles t files))
        (p.addedIds ++ p.updatedIds).eraseDups).map Document.ofRow)) :
    Saves s disk t (outcome, { p.saved t (goneFiles t files) with terms := terms, rarity := rarity }) := by
  have hnodes : (p.saved t (goneFiles t files)).nodes = p.graph.rows := by rw [Progress.Follows.saved_eq]
  have htidy : ({ p.saved t (goneFiles t files) with terms := terms, rarity := rarity } : Tables R).Tidy :=
    Tables.tidy_of_nodes_eq F.rows.tidy hnodes
  have hchosen : ∀ r ∈ chosenRows (p.saved t (goneFiles t files)) (p.addedIds ++ p.updatedIds).eraseDups,
      r ∈ (p.saved t (goneFiles t files)).nodes := fun r hr => (Tables.mem_chosenRows.mp hr).1
  refine ⟨htidy, F.rows.congr htidy.graph (fun k => ?_) fun _ => hfiles.mem_iff.symm, F.digest?_saved h hfiles,
    F.digest?_saved_of_not_mem hfiles, fun herror => ?_, fun hdone hr hsearch => ?_, fun hdone hsame => ?_⟩
  · rw [htidy.row_graph]
    exact Tables.row?_of_nodes_eq F.rows.tidy hnodes k
  · refine (hfail _ herror).imp_right fun ⟨hlog, hgone⟩ => ⟨hlog, ?_⟩
    obtain ⟨path, hpath⟩ := List.exists_mem_of_ne_nil _ hgone
    obtain ⟨hsome, hnot⟩ := mem_goneFiles.mp hpath
    exact ⟨path, hsome, fun parts hm => hnot parts (hfiles.symm.subset hm)⟩
  · obtain ⟨hterms, hrarity⟩ := hok _ hdone
    rw [htidy.finds_iff hchosen hterms hrarity hr, F.mem_chosenRows h hfiles ht hshaped (hnodes ▸ hr) hsearch]
  · obtain ⟨hterms, hrarity⟩ := hok _ hdone
    have hnone : chosenRows (p.saved t (goneFiles t files)) (p.addedIds ++ p.updatedIds).eraseDups = [] := by
      refine List.eq_nil_iff_forall_not_mem.mpr fun r hr => ?_
      have hsearch := (Tables.mem_chosenRows.mp hr).2.1
      obtain ⟨parts, hm, -, htouched, -⟩ :=
        (F.mem_chosenRows h hfiles ht hshaped (hnodes ▸ hchosen r hr) hsearch).mp hr
      exact hsame parts hm htouched
    rw [hnone] at hterms hrarity
    have hkeys : rarity.map (·.1) = [] := by
      refine List.eq_nil_iff_forall_not_mem.mpr fun term hterm => ?_
      obtain ⟨d, hd, -⟩ := mem_allTerms.mp ((hrarity term).mp hterm)
      cases hd
    exact ⟨hterms, List.map_eq_nil_iff.mp hkeys⟩

/-- **An incremental run** stops before anything is saved, because too many files are gone or because an edited file
has no directory above it, or it saves what it found. -/
theorem indexChangesAlong_cases (h : Indexable s disk) (ht : t.Tidy) (hshaped : Shaped t.row?)
    (hfiles : files.Perm (sourceFiles disk)) :
    s.limits.maxVariables < 2 * (goneFiles t files).length ∧
        indexChangesAlong s disk files t = (.error .tooManyVariables, t) ∨
      (∃ parts ∈ sourceFiles disk,
        indexChangesAlong s disk files t = (.error (.missingNode (folderId parts.dropLast)), t) ∧
          ¬ IsNew t.files parts ∧ IsTouched disk t.files parts ∧ t.row? (folderId parts.dropLast) = none) ∨
      Saves s disk t (indexChangesAlong s disk files t) := by
  have hnodup : ([] ++ files).Nodup := hfiles.nodup_iff.mpr (nodup_sourceFiles (by decide) h.named)
  rcases (Progress.Follows.refl ht.graph).run h (ht.shaped_graph hshaped) (fun _ hm => hfiles.subset hm) hnodup with
    ⟨p, hrun, F⟩ | ⟨parts, hm, hrun, hknown, htouched, hnone⟩
  · rcases indexChangesAlong_of_ok hrun F.rows.tidy with hmany | ⟨removed, delta, changes, hdelta, hresult⟩
    · exact Or.inl hmany
    · -- saving the nodes has emptied the search tables
      have hterms : (p.saved t (goneFiles t files)).terms = [] := by rw [Progress.Follows.saved_eq]
      have hrarity : (p.saved t (goneFiles t files)).rarity = [] := by rw [Progress.Follows.saved_eq]
      rw [hresult]
      refine Or.inr (Or.inr ?_)
      rcases updateIndex_of_empty (c := ⟨p.saved t (goneFiles t files), none, true, s.limits⟩) rfl rfl hterms hrarity
        removed (p.addedIds ++ p.updatedIds).eraseDups delta with ⟨hok, hclose⟩ | ⟨f, herror, hclose, hf⟩
      · rw [hok, hclose]
        refine .of_saved h ht hshaped hfiles F (fun _ hfail => by cases hfail) fun _ _ => ⟨rfl, fun term => ?_⟩
        rw [Session.map_fst_freshRarities]
      · have hsame : p.saved t (goneFiles t files) =
            { p.saved t (goneFiles t files) with terms := [], rarity := [] } := by
          rw [Progress.Follows.saved_eq]
        rw [herror, hclose, hsame]
        refine .of_saved h ht hshaped hfiles F (fun f' hfail => ?_) (fun _ hc => by cases hc)
        obtain rfl : f = f' := Except.error.inj hfail
        exact hf.imp_right fun ⟨hlog, hneg⟩ => ⟨hlog, hdelta (by omega)⟩
  · refine Or.inr (Or.inl ⟨parts, hfiles.subset hm, ?_, hknown, htouched, (ht.row_graph _).symm.trans hnone⟩)
    unfold indexChangesAlong indexChangesIn
    rw [hrun]

end Changes

end CodeAtlas
