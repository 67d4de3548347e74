import Mathlib
import CodeAtlas.Proofs.Project.History

/-!
# Directories above edited files

An incremental run puts the missing directories above a new file, but it relies on the directory above an edited file
to be there. Whatever the order of the files, it stops at no missing directory exactly if the directories above all
edited files have rows. They do if every recorded file has a row for the directory above it. Incremental runs keep
this, and so do full runs that find all recorded files again. A full run that misses a recorded file keeps the record
and may lose the directory.

## Main definitions

* `IsEdited`: a recorded file that has another digest now
* `Tables.Anchored`: the directories above recorded files have rows

## Main results

* `no_missing_parent_iff`: when incremental runs stop at no missing directory
* `History.anchored`: the directories above recorded files have rows if full runs find all recorded files again
* `never_missing_parent_iff`: incremental runs at the end of a history
-/

namespace CodeAtlas

open Store Search

/-- A recorded file that has another digest now. -/
def IsEdited (disk : Entry) (known : List (String × String)) (parts : List String) : Prop :=
  ¬ IsNew known parts ∧ IsTouched disk known parts

variable {R : Type}

/-- The directories above recorded files have rows. -/
def Store.Tables.Anchored (t : Tables R) : Prop :=
  ∀ parts, (∀ n ∈ parts, isPlainName n = true) → (t.digest? (relativeText parts)).isSome = true →
    (t.row? (folderId parts.dropLast)).isSome = true

variable {s : Source} {disk : Entry} {t : Tables R} {parts : List String}

theorem Indexable.mem_of_mem_sourcePaths (h : Indexable s disk) (hplain : ∀ n ∈ parts, isPlainName n = true)
    (hpath : relativeText parts ∈ sourcePaths disk) : parts ∈ sourceFiles disk := by
  obtain ⟨parts', hm, heq⟩ := mem_sourcePaths.mp hpath
  rwa [CodeAtlas.relativeText_inj (isFileName_of_plain hplain) (isFileName_of_plain (h.plain hm).2) heq]

/-- Incremental runs keep the directories above recorded files. -/
theorem Saves.anchored {result : Except Failure Changes × Tables R} (S : Saves s disk t result) (h : Indexable s disk)
    (ht : t.Sound) (hanchored : t.Anchored) : result.2.Anchored := by
  intro parts hplain hrecorded
  have hm := h.mem_of_mem_sourcePaths hplain ((S.digest?_isSome_iff h _).mp hrecorded)
  by_cases hnew : IsNew t.files parts
  · rw [← S.tidy.row_graph]
    exact S.rows.above parts hm hnew
  · refine S.isSome_row? h ht (folderId_map_fileOf (Graph.plain_dropLast hplain)) (hanchored parts hplain ?_)
    exact Option.isSome_iff_ne_none.mpr hnew

variable [Scalar R]

theorem Indexable.anchored_indexAll (h : Indexable s disk) (hgone : t.NothingGone disk) :
    (indexAll s disk t).2.Anchored := by
  intro parts hplain hrecorded
  have hpath : relativeText parts ∈ sourcePaths disk := by
    rcases (h.digest?_isSome_indexAll_iff t _).mp hrecorded with hpath | hold
    · exact hpath
    · exact hgone _ (Tables.mem_map_files.mpr hold)
  rw [h.row?_indexAll]
  exact h.row_built_above (h.mem_of_mem_sourcePaths hplain hpath)

/-- **The directories above recorded files have rows if full runs find all recorded files again.** -/
theorem History.anchored {t? : Option (Tables R)}
    (H : History s (fun incremental t disk => incremental = false → t.NothingGone disk) t?) :
    ∀ t ∈ t?, t.Anchored := by
  induction H with
  | start => simp
  | all _ h hgone _ =>
    rintro t ⟨⟩
    exact h.anchored_indexAll (hgone rfl)
  | @changes t disk files H h hfiles _ ih =>
    rintro t' ⟨⟩
    rcases h.unchanged_or_saves (H.sound t rfl) hfiles with hsame | S
    · rw [hsame]
      exact ih t rfl
    · exact S.anchored h (H.sound t rfl) (ih t rfl)

/-! ## Stopping at a missing directory -/

/-- If an edited file without a row for the directory above it comes first, the run stops there. -/
theorem indexChangesAlong_of_edited_first (h : Indexable s disk) (ht : t.Sound) (hm : parts ∈ sourceFiles disk)
    (hedited : IsEdited disk t.files parts) (hnone : t.row? (folderId parts.dropLast) = none)
    (rest : List (List String)) :
    indexChangesAlong s disk (parts :: rest) t = (.error (.missingNode (folderId parts.dropLast)), t) := by
  obtain ⟨content, hread, -⟩ := h.content hm
  have hstep := indexFile_of_edited (p := { graph := t.graph }) h hm hread ht.tidy.graph
    (ht.tidy.shaped_graph ht.shaped).shape hedited.1 hedited.2
  rw [ht.tidy.row_graph, hnone, if_neg (by simp)] at hstep
  unfold indexChangesAlong indexChangesIn
  rw [List.foldlM_cons, hstep]
  rfl

/-- **When incremental runs stop at no missing directory**, whatever the order of the files. -/
theorem no_missing_parent_iff (h : Indexable s disk) (ht : t.Sound) :
    (∀ files, files.Perm (sourceFiles disk) →
        ∀ id, (indexChangesAlong s disk files t).1 ≠ .error (.missingNode id)) ↔
      ∀ parts ∈ sourceFiles disk, IsEdited disk t.files parts →
        (t.row? (folderId parts.dropLast)).isSome = true := by
  constructor
  · intro hnever parts hm hedited
    by_contra hnone
    rw [Option.not_isSome_iff_eq_none] at hnone
    -- later in the run a new file could bring the directory, so the edited file comes first
    refine hnever _ (List.perm_cons_erase hm).symm (folderId parts.dropLast) ?_
    rw [indexChangesAlong_of_edited_first h ht hm hedited hnone]
  · intro habove files hfiles id hfail
    rcases indexChangesAlong_cases h ht.tidy ht.shaped hfiles with
      ⟨-, hmany⟩ | ⟨parts, hm, -, hknown, htouched, hnone⟩ | S
    · rw [hmany] at hfail
      cases hfail
    · have hsome := habove parts hm ⟨hknown, htouched⟩
      rw [hnone] at hsome
      cases hsome
    · rcases S.failure hfail with hf | ⟨hf, -⟩ <;> cases hf

/-- **Incremental runs at the end of a history.** Whatever the order of the files, an incremental run stops at no
missing directory exactly if the directories above all edited files have rows. This is so if every full run of the
history has found all recorded files again. -/
theorem never_missing_parent_iff (hreach : Reachable s (some t)) (h : Indexable s disk) :
    ((∀ files, files.Perm (sourceFiles disk) →
        ∀ id, (indexChangesAlong s disk files t).1 ≠ .error (.missingNode id)) ↔
      ∀ parts ∈ sourceFiles disk, IsEdited disk t.files parts →
        (t.row? (folderId parts.dropLast)).isSome = true) ∧
    (History s (fun incremental t disk => incremental = false → t.NothingGone disk) (some t) →
      ∀ files, files.Perm (sourceFiles disk) →
        ∀ id, (indexChangesAlong s disk files t).1 ≠ .error (.missingNode id)) := by
  have hiff := no_missing_parent_iff h (hreach.sound t rfl)
  refine ⟨hiff, fun H => hiff.mpr fun parts hm hedited => ?_⟩
  exact H.anchored t rfl parts (h.plain hm).2 (Option.isSome_iff_ne_none.mpr hedited.1)

/-- A directory goes away, a full run takes note of that, and the directory comes back with another file of the same
name: some order of the files makes an incremental run stop at the missing directory. -/
theorem missing_parent_after_return :
    let disk₁ := Sample.folder [("lib", Sample.folder [("c.py", Sample.file "x")])]
    let disk₂ := Sample.folder [("a.py", Sample.file "")]
    let disk₃ := Sample.folder [("lib", Sample.folder [("c.py", Sample.file "")])]
    let t := (indexAll Sample.source disk₂ (Sample.indexed disk₁)).2
    ∃ files, files.Perm (sourceFiles disk₃) ∧
      ∃ id, (indexChangesAlong Sample.source disk₃ files t).1 = .error (.missingNode id) := by
  intro disk₁ disk₂ disk₃ t
  have h₁ : Indexable Sample.source disk₁ := by decide +kernel
  have h₂ : Indexable Sample.source disk₂ := by decide +kernel
  have h₃ : Indexable Sample.source disk₃ := by decide +kernel
  have hiff := (never_missing_parent_iff (t := t) (.all (Sample.reachable_indexed h₁) h₂ trivial) h₃).1
  by_contra hnot
  have hnever := hiff.mp fun files hfiles id hfail => hnot ⟨files, hfiles, id, hfail⟩
  have hedited : IsEdited disk₃ t.files ["lib", "c.py"] := by
    unfold IsEdited IsNew IsTouched
    decide +kernel
  exact absurd (hnever ["lib", "c.py"] (by decide +kernel) hedited) (by decide +kernel)

end CodeAtlas
