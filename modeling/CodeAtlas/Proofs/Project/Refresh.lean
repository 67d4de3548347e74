import Mathlib
import CodeAtlas.Proofs.Project.History

/-!
# Incremental runs against full runs

A project is indexed as a whole, files are added and edited, and the changes are indexed. If no source file went away,
the rows of files and declarations are then those of a full run on the project as it is now. The rows of a touched
file are made from the file. A file that is passed over has the digest that was recorded, so its content is the one
from before, and its rows have stayed.

## Main definitions

* `DigestsTellApart`: different contents of a file in two projects have different digests

## Main results

* `row?_refreshed`: the rows of each source file after the incremental run
* `refreshed_perm_full`: the rows with a file are those of a full run
-/

namespace CodeAtlas

open Store Search

/-- Different contents that a source file has in two projects have different digests. -/
def DigestsTellApart (disk₁ disk₂ : Entry) : Prop :=
  ∀ parts ∈ sourceFiles disk₁, ∀ content₁ ∈ disk₁.readFile false parts, ∀ content₂ ∈ disk₂.readFile false parts,
    Digest.sha256 content₁ = Digest.sha256 content₂ → content₁ = content₂

instance (disk₁ disk₂ : Entry) : Decidable (DigestsTellApart disk₁ disk₂) :=
  inferInstanceAs (Decidable (∀ parts ∈ sourceFiles disk₁, _))

variable {R : Type} [Scalar R] {s : Source} {disk₁ disk₂ : Entry} {parts : List String}

/-- What is recorded after the first full run are the source files. -/
theorem Indexable.mem_of_recorded (h : Indexable s disk₁) {path : String}
    (hrecorded : ((indexAll s disk₁ ({} : Tables R)).2.digest? path).isSome = true) :
    ∃ parts ∈ sourceFiles disk₁, path = relativeText parts := by
  by_contra hnot
  rw [h.digest?_indexAll_of_not_mem {} fun parts hm heq => hnot ⟨parts, hm, heq⟩] at hrecorded
  cases hrecorded

/-- A file that is not new for the incremental run was a source file before. -/
theorem mem_sourceFiles_of_known (h₁ : Indexable s disk₁) (h₂ : Indexable s disk₂) (hm : parts ∈ sourceFiles disk₂)
    (hknown : ¬ IsNew (indexAll s disk₁ ({} : Tables R)).2.files parts) : parts ∈ sourceFiles disk₁ := by
  obtain ⟨parts', hm', heq⟩ := h₁.mem_of_recorded (Option.isSome_iff_ne_none.mpr hknown)
  rwa [relativeText_inj (isFileName_of_plain (h₂.plain hm).2) (isFileName_of_plain (h₁.plain hm').2) heq]

/-- The incremental run saves what it finds: nothing is gone, and the directories above known files have rows. -/
theorem saves_refreshed (h₁ : Indexable s disk₁) (h₂ : Indexable s disk₂)
    (hkept : ∀ parts ∈ sourceFiles disk₁, parts ∈ sourceFiles disk₂) {files : List (List String)}
    (hfiles : files.Perm (sourceFiles disk₂)) :
    Saves s disk₂ (indexAll s disk₁ ({} : Tables R)).2
      (indexChangesAlong s disk₂ files (indexAll s disk₁ ({} : Tables R)).2) := by
  have hsound := h₁.sound_indexAll ({} : Tables R)
  rcases indexChangesAlong_cases h₂ hsound.tidy hsound.shaped hfiles with
    ⟨hmany, -⟩ | ⟨parts, hm, -, hknown, -, hnone⟩ | S
  · have hgone : goneFiles (indexAll s disk₁ ({} : Tables R)).2 files = [] := by
      refine List.eq_nil_iff_forall_not_mem.mpr fun path hpath => ?_
      obtain ⟨hrecorded, hnot⟩ := mem_goneFiles.mp hpath
      obtain ⟨parts, hm, heq⟩ := h₁.mem_of_recorded hrecorded
      exact hnot parts (hfiles.symm.subset (hkept parts hm)) heq
    rw [hgone] at hmany
    exact absurd hmany (Nat.not_lt_zero _)
  · have habove := h₁.row_built_above (mem_sourceFiles_of_known h₁ h₂ hm hknown)
    rw [h₁.row?_indexAll] at hnone
    rw [hnone] at habove
    cases habove
  · exact S

variable {result : Except Failure Changes × Tables R}

/-- The rows with a file after the incremental run belong to source files. -/
theorem exists_source_of_refreshed (h₁ : Indexable s disk₁)
    (hkept : ∀ parts ∈ sourceFiles disk₁, parts ∈ sourceFiles disk₂)
    (S : Saves s disk₂ (indexAll s disk₁ ({} : Tables R)).2 result) {k : NodeId} {r : NodeRow}
    (hr : result.2.row? k = some r) (hfile : r.filePath.isSome = true) :
    ∃ parts ∈ sourceFiles disk₂, k.map fileOf = some (relativeText parts) := by
  rcases S.row?_cases (h₁.sound_indexAll {}) hr with hold | ⟨parts, hm, -, hk⟩ | ⟨-, -, hnone, -⟩
  · rw [h₁.row?_indexAll] at hold
    rcases h₁.row_built_cases hold with ⟨parts, hm, hk⟩ | ⟨-, hnone, -⟩
    · exact ⟨parts, hkept parts hm, hk⟩
    · rw [hnone] at hfile
      cases hfile
  · exact ⟨parts, hm, hk⟩
  · rw [hnone] at hfile
    cases hfile

/-- **The rows of each source file after the incremental run** are those of the file. -/
theorem row?_refreshed (h₁ : Indexable s disk₁) (h₂ : Indexable s disk₂) (hdigests : DigestsTellApart disk₁ disk₂)
    (S : Saves s disk₂ (indexAll s disk₁ ({} : Tables R)).2 result) (hm : parts ∈ sourceFiles disk₂)
    {content : ByteArray} (hread : disk₂.readFile false parts = some content) {k : NodeId}
    (hk : k.map fileOf = some (relativeText parts)) : result.2.row? k = s.fileRow parts content k := by
  have hsound := h₁.sound_indexAll ({} : Tables R)
  by_cases htouched : IsTouched disk₂ (indexAll s disk₁ ({} : Tables R)).2.files parts
  · exact S.row?_of_touched hm htouched hread hk
  have hsame : (indexAll s disk₁ ({} : Tables R)).2.files.lookup (relativeText parts) = some (Digest.sha256 content) :=
    (not_not.mp htouched).trans (fileDigest?_of_readFile hread)
  -- the file was recorded with the digest that it has now, so it had the content that it has now
  have hm₁ : parts ∈ sourceFiles disk₁ := mem_sourceFiles_of_known h₁ h₂ hm fun hnew => by
    cases hsame.symm.trans hnew
  obtain ⟨content₁, hread₁, hdigest₁, -⟩ := h₁.content hm₁
  have hstored := (h₁.digest?_indexAll_of_mem ({} : Tables R) hm₁).trans hdigest₁
  obtain rfl : content₁ = content := hdigests parts hm₁ content₁ hread₁ content hread
    (Option.some.inj (hstored.symm.trans hsame))
  have hrow : (indexAll s disk₁ ({} : Tables R)).2.row? k = s.fileRow parts content₁ k := by
    rw [h₁.row?_indexAll]
    exact h₁.row_built_of_file hm₁ hread₁ hk
  have hother : ∀ parts' ∈ sourceFiles disk₂, IsTouched disk₂ (indexAll s disk₁ ({} : Tables R)).2.files parts' →
      k.map fileOf ≠ some (relativeText parts') := by
    intro parts' hm' htouched' hk'
    rw [h₂.parts_inj hm hm' (Option.some.inj (hk.symm.trans hk'))] at htouched
    exact htouched htouched'
  cases hfile : s.fileRow parts content₁ k with
  | some r => exact S.row?_of_kept hsound (hrow.trans hfile) hother
  | none =>
    refine Option.eq_none_iff_forall_not_mem.mpr fun r hr => ?_
    rcases S.row?_cases hsound hr with hold | ⟨parts', hm', htouched', hk'⟩ | ⟨-, -, -, -, hkey⟩
    · cases hold.symm.trans (hrow.trans hfile)
    · exact hother parts' hm' htouched' hk'
    · -- a key that a directory and a file could share is that of the file itself, which has a row
      exact h₂.map_fileOf_ne_of_fileRow hm hread hk hfile hkey

/-- **An incremental run after additions and edits leaves the rows of a full run.** Let a project be indexed as a
whole into an empty database, and let every source file be one later on. Then an incremental run, in any order of the
files, fails at most because the search index gets too many changes at once, and in any case the rows with a file are,
in all columns, those that a full run into an empty database would leave. -/
theorem refreshed_perm_full (h₁ : Indexable s disk₁) (h₂ : Indexable s disk₂)
    (hkept : ∀ parts ∈ sourceFiles disk₁, parts ∈ sourceFiles disk₂) (hdigests : DigestsTellApart disk₁ disk₂)
    {files : List (List String)} (hfiles : files.Perm (sourceFiles disk₂)) :
    let before := indexAll s disk₁ ({} : Tables R)
    let refreshed := indexChangesAlong s disk₂ files before.2
    (∃ stats, before.1 = .ok stats) ∧ (∀ f, refreshed.1 = .error f → f = .tooManyVariables) ∧
      (refreshed.2.nodes.filter (·.filePath.isSome)).Perm
        ((indexAll s disk₂ ({} : Tables R)).2.nodes.filter (·.filePath.isSome)) := by
  intro before refreshed
  have S := saves_refreshed (R := R) h₁ h₂ hkept hfiles
  have hfull := h₂.tidy_indexAll ({} : Tables R)
  refine ⟨?_, fun f hf => ?_, ?_⟩
  · rw [show before = indexAll s disk₁ {} from rfl, h₁.indexAll_eq]
    exact ⟨_, rfl⟩
  · rcases S.failure hf with hmany | ⟨-, path, hrecorded, hnot⟩
    · exact hmany
    · obtain ⟨parts, hm, heq⟩ := h₁.mem_of_recorded hrecorded
      exact absurd heq (hnot parts (hkept parts hm))
  · -- in both tables, the row under a key that belongs to a source file is the one of the file
    have hrow : ∀ {k parts}, parts ∈ sourceFiles disk₂ → k.map fileOf = some (relativeText parts) →
        refreshed.2.row? k = (indexAll s disk₂ ({} : Tables R)).2.row? k := by
      intro k parts hm hk
      obtain ⟨content, hread, -⟩ := h₂.content hm
      rw [row?_refreshed h₁ h₂ hdigests S hm hread hk, h₂.row?_indexAll, h₂.row_built_of_file hm hread hk]
    rw [List.perm_ext_iff_of_nodup (S.tidy.nodup.filter _) (hfull.nodup.filter _)]
    intro r
    rw [List.mem_filter, List.mem_filter, S.tidy.mem_nodes, hfull.mem_nodes]
    refine and_congr_left fun hfile => ⟨fun hr => ?_, fun hr => ?_⟩
    · obtain ⟨parts, hm, hk⟩ := exists_source_of_refreshed h₁ hkept S hr hfile
      rwa [← hrow hm hk]
    · rw [h₂.row?_indexAll] at hr
      rcases h₂.row_built_cases hr with ⟨parts, hm, hk⟩ | ⟨-, hnone, -⟩
      · rwa [hrow hm hk, h₂.row?_indexAll]
      · rw [hnone] at hfile
        cases hfile

/-- One file is edited, one stays, and one is added in a directory. -/
theorem refreshed_perm_full_sample :
    let disk₁ := Sample.folder [("a.py", Sample.file "x"), ("b.py", Sample.file "")]
    let disk₂ := Sample.folder [("a.py", Sample.file ""), ("b.py", Sample.file ""),
      ("lib", Sample.folder [("c.py", Sample.file "y")])]
    DigestsTellApart disk₁ disk₂ ∧
      ((indexChangesAlong Sample.source disk₂ [["lib", "c.py"], ["a.py"], ["b.py"]]
          (Sample.indexed disk₁)).2.nodes.filter (·.filePath.isSome)).Perm
        ((Sample.indexed disk₂).nodes.filter (·.filePath.isSome)) := by
  intro disk₁ disk₂
  have hdigests : DigestsTellApart disk₁ disk₂ := by decide +kernel
  exact ⟨hdigests, (refreshed_perm_full (by decide +kernel) (by decide +kernel) (by decide +kernel) hdigests
    (by decide +kernel)).2.2⟩

end CodeAtlas
