import Mathlib
import CodeAtlas.Proofs.Project.History

/-!
# Completeness of the search tables

After a full run, all searched rows are found by their terms. An incremental run empties the search tables and fills
them for touched files only, and of a new file it leaves out the rows whose keys were in use. So after an incremental
run all searched rows are found exactly if it kept no searched row with terms and no key of a new file was in use; a
run without touched files leaves empty search tables.

## Main definitions

* `NodeRow.HasTerms`: a searched row with terms

## Main results

* `Saves.searchComplete_iff`: which incremental runs leave complete search tables
* `searchComplete_after_run_iff`: the search tables after the runs of a history
-/

namespace CodeAtlas

open Store Search

/-- A row that is searched and has a term. -/
def Store.NodeRow.HasTerms (r : NodeRow) : Prop :=
  r.isSearchable = true ∧ (Document.ofRow r).terms ≠ []

instance (r : NodeRow) : Decidable r.HasTerms :=
  inferInstanceAs (Decidable (_ ∧ _))

theorem IsFolderRow.not_hasTerms {k : NodeId} {r : NodeRow} (h : IsFolderRow k r) : ¬ r.HasTerms := by
  rintro ⟨hsearch, -⟩
  rw [NodeRow.isSearchable, h.2.2.1] at hsearch
  exact absurd hsearch (by decide)

variable {R : Type} {s : Source} {disk : Entry} {t : Tables R} {result : Except Failure Changes × Tables R}

/-- A searched row belongs to the file before the colon of its key. -/
theorem Store.Tables.Sound.filePath_eq (ht : t.Sound) {k : NodeId} {r : NodeRow} (hr : t.row? k = some r)
    (hterms : r.HasTerms) : r.filePath = k.map fileOf := by
  rcases ht.shaped.shape hr with hfolder | ⟨-, -, hfile, -⟩
  · exact absurd hterms hfolder.not_hasTerms
  · exact hfile

namespace Saves

variable (S : Saves s disk t result) (h : Indexable s disk) (ht : t.Sound)

include S in
/-- Which incremental runs leave complete search tables, said of the rows after the run. -/
theorem searchComplete_iff_rows {changes : Changes} (hdone : result.1 = .ok changes) : result.2.SearchComplete ↔
    ∀ r ∈ result.2.nodes, r.HasTerms → ∃ parts ∈ sourceFiles disk, r.filePath = some (relativeText parts) ∧
      IsTouched disk t.files parts ∧ (IsNew t.files parts → t.row? r.id = none) := by
  constructor
  · rintro hcomplete r hr ⟨hsearch, hterms⟩
    exact (S.found hdone hr hsearch).mp (hcomplete r hr hsearch) hterms
  · intro hrows r hr hsearch
    exact (S.found hdone hr hsearch).mpr fun hterms => hrows r hr ⟨hsearch, hterms⟩

include S h ht

/-- **Which incremental runs leave complete search tables**: those for which all searched rows with terms belong to
touched files, and which put no such row of a new file under a key that was in use. -/
theorem searchComplete_iff {changes : Changes} (hdone : result.1 = .ok changes) : result.2.SearchComplete ↔
    (∀ r ∈ t.nodes, r.HasTerms → ∃ parts ∈ sourceFiles disk, r.filePath = some (relativeText parts) ∧
      IsTouched disk t.files parts) ∧
    ∀ parts ∈ sourceFiles disk, IsNew t.files parts → ∀ content, disk.readFile false parts = some content →
      ∀ k r, s.fileRow parts content k = some r → r.HasTerms → t.row? k = none := by
  rw [S.searchComplete_iff_rows hdone]
  constructor
  · intro hrows
    constructor
    · intro r hr hterms
      have hrow := ht.tidy.mem_nodes.mp hr
      by_contra hnot
      -- no touched file owns the row, so it is kept, and is not found
      have hkept : result.2.row? r.id = some r := by
        refine S.row?_of_kept ht hrow fun parts hm htouched hk => hnot ⟨parts, hm, ?_, htouched⟩
        rw [ht.filePath_eq hrow hterms, hk]
      obtain ⟨parts, hm, hfile, htouched, -⟩ := hrows r (S.tidy.mem_nodes.mpr hkept) hterms
      exact hnot ⟨parts, hm, hfile, htouched⟩
    · intro parts hm hnew content hread k r hr hterms
      obtain ⟨hk, hid, hfile, -⟩ := Source.fileRow_eq_some (h.plain hm).2 hr
      have htouched : IsTouched disk t.files parts := IsNew.isTouched hnew hread
      have hrow := (S.row?_of_touched hm htouched hread hk).trans hr
      obtain ⟨parts', hm', hfile', -, hfree⟩ := hrows r (S.tidy.row?_eq_some_iff.mp hrow).1 hterms
      obtain rfl := h.parts_inj hm hm' (Option.some.inj (hfile.symm.trans hfile'))
      rw [← hid]
      exact hfree hnew
  · rintro ⟨hold, hnew⟩ r hr hterms
    have hrow := S.tidy.mem_nodes.mp hr
    -- the row is found if a touched file owns it, and a row that was there before belongs to a touched file
    have howned : ∀ parts ∈ sourceFiles disk, IsTouched disk t.files parts →
        r.id.map fileOf = some (relativeText parts) → ∃ parts ∈ sourceFiles disk,
          r.filePath = some (relativeText parts) ∧ IsTouched disk t.files parts ∧
            (IsNew t.files parts → t.row? r.id = none) := by
      intro parts hm htouched hk
      obtain ⟨content, hread, -⟩ := h.content hm
      have hfile := (S.row?_of_touched hm htouched hread hk).symm.trans hrow
      exact ⟨parts, hm, (Source.fileRow_eq_some (h.plain hm).2 hfile).2.2.1, htouched, fun hn =>
        hnew parts hm hn content hread r.id r hfile hterms⟩
    rcases S.row?_cases ht hrow with hrow' | ⟨parts, hm, htouched, hk⟩ | ⟨-, hfolder⟩
    · obtain ⟨parts, hm, hfile, htouched⟩ := hold r (ht.tidy.mem_nodes.mpr hrow') hterms
      exact howned parts hm htouched ((ht.filePath_eq hrow' hterms).symm.trans hfile)
    · exact howned parts hm htouched hk
    · exact absurd hterms hfolder.not_hasTerms

end Saves

/-! ## Histories -/

/-- **The search tables after the runs of a history.** A full run always ends well and leaves complete search tables.
An incremental run that ended well leaves complete search tables exactly if all searched rows with terms from before
belong to touched files, and no such row of a new file has a key that was in use; and without touched files it leaves
the search tables empty. -/
theorem searchComplete_after_run_iff [Scalar R] {t? : Option (Tables R)} (hreach : Reachable s t?)
    (h : Indexable s disk) :
    ((∃ stats, (indexAll s disk (t?.getD {})).1 = .ok stats) ∧ (indexAll s disk (t?.getD {})).2.SearchComplete) ∧
    ∀ t ∈ t?, ∀ files, files.Perm (sourceFiles disk) →
      ∀ changes, (indexChangesAlong s disk files t).1 = .ok changes →
        ((indexChangesAlong s disk files t).2.SearchComplete ↔
          (∀ r ∈ t.nodes, r.HasTerms → ∃ parts ∈ sourceFiles disk, r.filePath = some (relativeText parts) ∧
            IsTouched disk t.files parts) ∧
          ∀ parts ∈ sourceFiles disk, IsNew t.files parts → ∀ content, disk.readFile false parts = some content →
            ∀ k r, s.fileRow parts content k = some r → r.HasTerms → t.row? k = none) ∧
        ((∀ parts ∈ sourceFiles disk, ¬ IsTouched disk t.files parts) →
          (indexChangesAlong s disk files t).2.terms = [] ∧ (indexChangesAlong s disk files t).2.rarity = []) := by
  refine ⟨⟨?_, h.searchComplete_indexAll _⟩, fun t ht files hfiles changes hdone => ?_⟩
  · rw [h.indexAll_eq]
    exact ⟨_, rfl⟩
  · have hsound := hreach.sound t ht
    have S := h.saves_of_ok hsound hfiles hdone
    exact ⟨S.searchComplete_iff h hsound hdone, S.unchanged hdone⟩

/-- A run that finds nothing to do empties the search tables, and a function that was found is no longer found. -/
theorem not_searchComplete_after_no_change :
    let disk := Sample.folder [("a.py", Sample.file "x")]
    let before := Sample.indexed disk
    before.SearchComplete ∧ ∃ changes, (indexChangesAlong Sample.source disk [["a.py"]] before).1 = .ok changes ∧
      ¬ (indexChangesAlong Sample.source disk [["a.py"]] before).2.SearchComplete ∧
      (indexChangesAlong Sample.source disk [["a.py"]] before).2.terms = [] := by
  intro disk before
  have hdisk : Indexable Sample.source disk := by decide +kernel
  have hfiles : [["a.py"]].Perm (sourceFiles disk) := by decide +kernel
  obtain ⟨changes, hdone⟩ := Sample.exists_of_endsWell
    (show Sample.endsWell (indexChangesAlong Sample.source disk [["a.py"]] before).1 = true by decide +kernel)
  obtain ⟨hiff, hempty⟩ :=
    (searchComplete_after_run_iff (Sample.reachable_indexed hdisk) hdisk).2 before rfl _ hfiles changes hdone
  have hsame : ∀ parts ∈ sourceFiles disk, ¬ IsTouched disk before.files parts := fun parts hm htouched =>
    htouched (hdisk.digest?_indexAll_of_mem {} hm)
  refine ⟨hdisk.searchComplete_indexAll {}, changes, hdone, fun hcomplete => ?_, (hempty hsame).1⟩
  obtain ⟨r, hr, hterms⟩ : ∃ r ∈ before.nodes, r.HasTerms := by decide +kernel
  obtain ⟨parts, hm, -, htouched⟩ := (hiff.mp hcomplete).1 r hr hterms
  exact hsame parts hm htouched

end CodeAtlas
