import Mathlib
import CodeAtlas.Proofs.Project.History

/-!
# Agreement of the tables with the project

The tables agree with a project if the recorded files, the nodes of files and the source files are the same, and no
node belongs to another file. A full run ends in agreement exactly if it starts from records of files that are still
there, because it forgets none. An incremental run ends in agreement exactly if all nodes of files that it starts from
are those of source files, because it keeps them, and if every file that it passes over has its node. So agreement
lasts as long as no source file goes away.

## Main definitions

* `Tables.Agrees`: agreement

## Main results

* `Indexable.agrees_indexAll_iff`, `Saves.agrees_iff`: agreement after a run
* `agrees_after_run_iff`: agreement after the runs of a history
* `History.agrees_of_nothingGone`: agreement lasts as long as nothing is gone
-/

namespace CodeAtlas

open Store Search

variable {R : Type}

namespace Store.Tables

/-- There is a node of the file with a path. -/
def HasFile (t : Tables R) (path : String) : Prop :=
  ∃ r ∈ t.nodes, r.kind = Node.fileKind ∧ r.id = some path

/-- The recorded files, the nodes of files and the source files of a project are the same, and no node belongs to
another file. -/
structure Agrees (t : Tables R) (disk : Entry) : Prop where
  files : ∀ path, path ∈ t.files.map (·.1) ↔ path ∈ sourcePaths disk
  nodes : ∀ id, (∃ r ∈ t.nodes, r.kind = Node.fileKind ∧ r.id = id) ↔ id ∈ (sourcePaths disk).map some
  paths : ∀ r ∈ t.nodes, ∀ path, r.filePath = some path → path ∈ sourcePaths disk

variable {t : Tables R} {disk : Entry}

theorem Sound.hasFile_iff (h : t.Sound) {path : String} :
    t.HasFile path ↔ ∃ r, t.row? (some path) = some r ∧ r.kind = Node.fileKind := by
  constructor
  · rintro ⟨r, hr, hkind, hid⟩
    exact ⟨r, h.tidy.row?_eq_some_iff.mpr ⟨hr, hid⟩, hkind⟩
  · rintro ⟨r, hr, hkind⟩
    obtain ⟨hr, hid⟩ := h.tidy.row?_eq_some_iff.mp hr
    exact ⟨r, hr, hkind, hid⟩

/-- In sound tables, a node belongs to a file that has a node, so agreement is about records and nodes of files only.
-/
theorem Sound.agrees_iff (h : t.Sound) : t.Agrees disk ↔
    (∀ path, (t.digest? path).isSome = true ↔ path ∈ sourcePaths disk) ∧
      ∀ path, t.HasFile path ↔ path ∈ sourcePaths disk := by
  constructor
  · rintro ⟨hfiles, hnodes, -⟩
    refine ⟨fun path => mem_map_files.symm.trans (hfiles path), fun path => (hnodes (some path)).trans ?_⟩
    simp
  · rintro ⟨hfiles, hnodes⟩
    refine ⟨fun path => mem_map_files.trans (hfiles path), fun id => ?_, fun r hr path hpath => ?_⟩
    · cases id with
      | none =>
        constructor
        · rintro ⟨r, hr, -, hid⟩
          exact absurd (h.tidy.present r hr) (by simp [hid])
        · simp
      | some path =>
        refine (hnodes path).trans ?_
        simp
    · obtain ⟨r', hr', hkind⟩ := h.shaped.file (h.tidy.mem_nodes.mp hr) hpath
      exact (hnodes path).mp (h.hasFile_iff.mpr ⟨r', hr', hkind⟩)

end Store.Tables

variable {s : Source} {disk : Entry} {t : Tables R}

theorem IsFolderRow.kind_ne {k : NodeId} {r : NodeRow} (h : IsFolderRow k r) : r.kind ≠ Node.fileKind := by
  rw [h.2.2.1]
  decide

/-! ## Incremental runs -/

namespace Saves

variable {result : Except Failure Changes × Tables R} (S : Saves s disk t result) (h : Indexable s disk) (ht : t.Sound)

include S h ht

/-- The nodes of files after an incremental run are those from before and those of touched files. -/
theorem hasFile_iff (path : String) : result.2.HasFile path ↔ t.HasFile path ∨
    ∃ parts ∈ sourceFiles disk, IsTouched disk t.files parts ∧ path = relativeText parts := by
  have hsound := S.sound h ht
  rw [hsound.hasFile_iff, ht.hasFile_iff]
  constructor
  · rintro ⟨r, hr, hkind⟩
    have hkey := hsound.shaped.map_fileOf hr hkind
    rcases S.row?_cases ht hr with hold | ⟨parts, hm, htouched, hk⟩ | ⟨-, hfolder⟩
    · exact Or.inl ⟨r, hold, hkind⟩
    · rw [hkey] at hk
      exact Or.inr ⟨parts, hm, htouched, Option.some.inj hk⟩
    · exact absurd hkind hfolder.kind_ne
  · intro hfile
    by_cases htouched : ∃ parts ∈ sourceFiles disk, IsTouched disk t.files parts ∧ path = relativeText parts
    · obtain ⟨parts, hm, ht', rfl⟩ := htouched
      obtain ⟨content, hread, -⟩ := h.content hm
      obtain ⟨r, hr, hkind⟩ := h.fileRow_self hm hread
      exact ⟨r, (S.row?_of_touched hm ht' hread (h.map_fileOf_self hm)).trans hr, hkind⟩
    · obtain ⟨r, hr, hkind⟩ := hfile.resolve_right htouched
      have hkey := ht.shaped.map_fileOf hr hkind
      refine ⟨r, S.row?_of_kept ht hr fun parts hm ht' hk => htouched ⟨parts, hm, ht', ?_⟩, hkind⟩
      rw [hkey] at hk
      exact Option.some.inj hk

/-- **Agreement after an incremental run.** -/
theorem agrees_iff : result.2.Agrees disk ↔ (∀ path, t.HasFile path → path ∈ sourcePaths disk) ∧
    ∀ parts ∈ sourceFiles disk, t.digest? (relativeText parts) = fileDigest? disk parts →
      t.HasFile (relativeText parts) := by
  rw [(S.sound h ht).agrees_iff]
  constructor
  · rintro ⟨-, hnodes⟩
    refine ⟨fun path hfile => (hnodes path).mp ((S.hasFile_iff h ht path).mpr (Or.inl hfile)), ?_⟩
    intro parts hm hsame
    -- the file was passed over, so its node is not that of a touched file
    have hfile := (hnodes (relativeText parts)).mpr (mem_sourcePaths.mpr ⟨parts, hm, rfl⟩)
    refine ((S.hasFile_iff h ht _).mp hfile).resolve_right ?_
    rintro ⟨parts', hm', htouched, heq⟩
    rw [← h.parts_inj hm hm' heq] at htouched
    exact htouched hsame
  · rintro ⟨hkept, hpassed⟩
    refine ⟨S.digest?_isSome_iff h, fun path => (S.hasFile_iff h ht path).trans ?_⟩
    constructor
    · rintro (hfile | ⟨parts, hm, -, heq⟩)
      · exact hkept path hfile
      · exact mem_sourcePaths.mpr ⟨parts, hm, heq⟩
    · intro hpath
      obtain ⟨parts, hm, rfl⟩ := mem_sourcePaths.mp hpath
      by_cases htouched : IsTouched disk t.files parts
      · exact Or.inr ⟨parts, hm, htouched, rfl⟩
      · exact Or.inl (hpassed parts hm (not_not.mp htouched))

end Saves

/-! ## Full runs -/

variable [Scalar R]

namespace Indexable

theorem hasFile_indexAll_iff (h : Indexable s disk) (t : Tables R) (path : String) :
    (indexAll s disk t).2.HasFile path ↔ path ∈ sourcePaths disk := by
  rw [(h.sound_indexAll t).hasFile_iff, h.row?_indexAll, mem_sourcePaths]
  constructor
  · rintro ⟨r, hr, hkind⟩
    rcases h.row_built_elim hr with ⟨parts, hm, content, -, hfile⟩ | hfolder
    · have hkey := (Source.fileRow_eq_some (h.plain hm).2 hfile).2.2.2.mp hkind
      exact ⟨parts, hm, Option.some.inj hkey⟩
    · exact absurd hkind hfolder.kind_ne
  · rintro ⟨parts, hm, rfl⟩
    obtain ⟨content, hread, -⟩ := h.content hm
    obtain ⟨r, hr, hkind⟩ := h.fileRow_self hm hread
    exact ⟨r, (h.row_built_of_file hm hread (h.map_fileOf_self hm)).trans hr, hkind⟩

/-- **Agreement after a full run.** -/
theorem agrees_indexAll_iff (h : Indexable s disk) (t : Tables R) :
    (indexAll s disk t).2.Agrees disk ↔ t.NothingGone disk := by
  rw [(h.sound_indexAll t).agrees_iff]
  constructor
  · rintro ⟨hfiles, -⟩ path hpath
    exact (hfiles path).mp ((h.digest?_isSome_indexAll_iff t path).mpr (Or.inr (Tables.mem_map_files.mp hpath)))
  · intro hkept
    refine ⟨fun path => (h.digest?_isSome_indexAll_iff t path).trans ?_, h.hasFile_indexAll_iff t⟩
    exact or_iff_left_of_imp fun hpath => hkept path (Tables.mem_map_files.mpr hpath)

end Indexable

/-! ## Histories -/

/-- **Agreement after the runs of a history.** A full run always ends well, and then the tables agree with the project
exactly if all files that were recorded before are source files. After an incremental run that ended well, they agree
exactly if all nodes of files from before are those of source files, and all files that were passed over had their
nodes. -/
theorem agrees_after_run_iff {t? : Option (Tables R)} (hreach : Reachable s t?) (h : Indexable s disk) :
    ((∃ stats, (indexAll s disk (t?.getD {})).1 = .ok stats) ∧
      ((indexAll s disk (t?.getD {})).2.Agrees disk ↔ (t?.getD {}).NothingGone disk)) ∧
    ∀ t ∈ t?, ∀ files, files.Perm (sourceFiles disk) →
      ∀ changes, (indexChangesAlong s disk files t).1 = .ok changes →
        ((indexChangesAlong s disk files t).2.Agrees disk ↔
          (∀ path, t.HasFile path → path ∈ sourcePaths disk) ∧
          ∀ parts ∈ sourceFiles disk, t.digest? (relativeText parts) = fileDigest? disk parts →
            t.HasFile (relativeText parts)) := by
  refine ⟨⟨?_, h.agrees_indexAll_iff _⟩, fun t ht files hfiles changes hdone => ?_⟩
  · rw [h.indexAll_eq]
    exact ⟨_, rfl⟩
  · have hsound := hreach.sound t ht
    exact (h.saves_of_ok hsound hfiles hdone).agrees_iff h hsound

/-- The node of a file that goes away stays after an incremental run, so the tables no longer agree with the project.
-/
theorem not_agrees_after_removal :
    let before := Sample.indexed (Sample.folder [("a.py", Sample.file ""), ("b.py", Sample.file "x")])
    let disk := Sample.folder [("b.py", Sample.file "x")]
    ∃ changes, (indexChangesAlong Sample.source disk [["b.py"]] before).1 = .ok changes ∧
      ¬ (indexChangesAlong Sample.source disk [["b.py"]] before).2.Agrees disk := by
  intro before disk
  have hbefore : Indexable Sample.source (Sample.folder [("a.py", Sample.file ""), ("b.py", Sample.file "x")]) := by
    decide +kernel
  have hdisk : Indexable Sample.source disk := by decide +kernel
  have hfiles : [["b.py"]].Perm (sourceFiles disk) := by decide +kernel
  obtain ⟨changes, hdone⟩ := Sample.exists_of_endsWell
    (show Sample.endsWell (indexChangesAlong Sample.source disk [["b.py"]] before).1 = true by decide +kernel)
  refine ⟨changes, hdone, fun hagrees => ?_⟩
  have hiff := (agrees_after_run_iff (Sample.reachable_indexed hbefore) hdisk).2 before rfl _ hfiles changes hdone
  have hfile : before.HasFile "a.py" := (hbefore.hasFile_indexAll_iff _ _).mpr (by decide +kernel)
  exact absurd ((hiff.mp hagrees).1 "a.py" hfile) (by decide +kernel)

/-! ## Histories without loss -/

omit [Scalar R] in
theorem Store.Tables.Agrees.hasFile_iff (h : t.Agrees disk) (path : String) :
    t.HasFile path ↔ path ∈ t.files.map (·.1) := by
  rw [h.files path]
  refine (h.nodes (some path)).trans ?_
  simp

omit [Scalar R] in
/-- If the recorded files are those with a node, and none is gone, an incremental run ends in agreement. -/
theorem Saves.agrees_of_nothingGone {result : Except Failure Changes × Tables R} (S : Saves s disk t result)
    (h : Indexable s disk) (ht : t.Sound) (hrecorded : ∀ path, t.HasFile path ↔ path ∈ t.files.map (·.1))
    (hgone : t.NothingGone disk) : result.2.Agrees disk := by
  refine (S.agrees_iff h ht).mpr ⟨fun path hfile => hgone path ((hrecorded path).mp hfile), fun parts hm hsame => ?_⟩
  obtain ⟨content, -, hdigest, -⟩ := h.content hm
  refine (hrecorded _).mpr (Tables.mem_map_files.mpr ?_)
  rw [hsame, hdigest]
  rfl

variable {t? : Option (Tables R)} (H : History s (fun _ t disk => t.NothingGone disk) t?)

include H

/-- As long as no run has missed a recorded file, the recorded files are those with a node. -/
theorem History.hasFile_iff : ∀ t ∈ t?, ∀ path, t.HasFile path ↔ path ∈ t.files.map (·.1) := by
  induction H with
  | start => simp
  | all _ h hgone _ =>
    rintro t ⟨⟩
    exact ((h.agrees_indexAll_iff _).mpr hgone).hasFile_iff
  | @changes t disk files H h hfiles hgone ih =>
    rintro t' ⟨⟩
    have ht := H.sound t rfl
    rcases h.unchanged_or_saves ht hfiles with hsame | S
    · rw [hsame]
      exact ih t rfl
    · exact (S.agrees_of_nothingGone h ht (ih t rfl) hgone).hasFile_iff

/-- **As long as no run has missed a recorded file, every run that ends well ends in agreement.** -/
theorem History.agrees_of_nothingGone (h : Indexable s disk) (hgone : (t?.getD {}).NothingGone disk) :
    (indexAll s disk (t?.getD {})).2.Agrees disk ∧
      ∀ t ∈ t?, ∀ files, files.Perm (sourceFiles disk) →
        ∀ changes, (indexChangesAlong s disk files t).1 = .ok changes →
          (indexChangesAlong s disk files t).2.Agrees disk := by
  refine ⟨(h.agrees_indexAll_iff _).mpr hgone, ?_⟩
  rintro t ⟨⟩ files hfiles changes hdone
  have ht := H.sound t rfl
  exact (h.saves_of_ok ht hfiles hdone).agrees_of_nothingGone h ht (H.hasFile_iff t rfl) hgone

end CodeAtlas
