import Mathlib
import CodeAtlas.Proofs.Project.Outcome

/-!
# Histories of runs

A history starts without a database. Full and incremental runs follow each other in any order, and the project may be
another one at every run. Runs that fail leave their tables behind as well. The tables of a history are always tidy,
and their rows have the shape of those of a scanned project.

## Main definitions

* `Tables.Sound`: tables that a run can start from
* `Tables.NothingGone`: all recorded files are source files
* `History`, `Reachable`: the databases that some runs, or any runs, can leave
* `Sample.source`, `Sample.words`, `Sample.file`, `Sample.folder`: small projects

## Main results

* `Saves.sound`: incremental runs keep tables sound
* `History.sound`: the tables of a history are sound
-/

namespace CodeAtlas

open Store Search

/-- The paths of the source files of a project. -/
def sourcePaths (disk : Entry) : List String :=
  (sourceFiles disk).map relativeText

theorem mem_sourcePaths {disk : Entry} {path : String} :
    path ∈ sourcePaths disk ↔ ∃ parts ∈ sourceFiles disk, path = relativeText parts := by
  simp only [sourcePaths, List.mem_map, eq_comm]

/-- The key of a row of a file is the path of the file. -/
theorem Shaped.map_fileOf {rows : NodeId → Option NodeRow} (h : Shaped rows) {k : NodeId} {r : NodeRow}
    (hr : rows k = some r) (hkind : r.kind = Node.fileKind) : k.map fileOf = k := by
  rcases h.shape hr with ⟨-, -, -, hk⟩ | ⟨-, -, -, hk⟩
  · exact hk
  · exact hk.mp hkind

variable {R : Type}

/-- Tables whose rows are tidy and have the shape of those of a scanned project. -/
structure Store.Tables.Sound (t : Tables R) : Prop where
  tidy : t.Tidy
  shaped : Shaped t.row?

/-- All recorded files are source files of a project. -/
def Store.Tables.NothingGone (t : Tables R) (disk : Entry) : Prop :=
  ∀ path ∈ t.files.map (·.1), path ∈ sourcePaths disk

variable {s : Source} {disk : Entry} {t : Tables R} {result : Except Failure Changes × Tables R}

namespace Saves

variable (S : Saves s disk t result) (h : Indexable s disk) (ht : t.Sound)

include S

/-- The row under a key after an incremental run, if a touched file owns the key. -/
theorem row?_of_touched {parts : List String} (hm : parts ∈ sourceFiles disk) (htouched : IsTouched disk t.files parts)
    {content : ByteArray} (hread : disk.readFile false parts = some content) {k : NodeId}
    (hk : k.map fileOf = some (relativeText parts)) : result.2.row? k = s.fileRow parts content k := by
  rw [← S.tidy.row_graph]
  exact S.rows.own hm htouched hread hk

include h in
/-- After an incremental run, the source files are recorded. -/
theorem digest?_isSome_iff (path : String) : (result.2.digest? path).isSome = true ↔ path ∈ sourcePaths disk := by
  rw [mem_sourcePaths]
  constructor
  · intro hsome
    by_contra hnot
    rw [S.digest_of_not_mem fun parts hm heq => hnot ⟨parts, hm, heq⟩] at hsome
    cases hsome
  · rintro ⟨parts, hm, rfl⟩
    obtain ⟨content, -, hdigest, -⟩ := h.content hm
    rw [S.digest_of_mem hm, hdigest]
    rfl

include ht

theorem row?_of_kept {k : NodeId} {r : NodeRow} (hr : t.row? k = some r)
    (hnot : ∀ parts ∈ sourceFiles disk, IsTouched disk t.files parts → k.map fileOf ≠ some (relativeText parts)) :
    result.2.row? k = some r := by
  rw [← S.tidy.row_graph]
  exact S.rows.keep ((ht.tidy.row_graph k).trans hr) hnot

theorem row?_cases {k : NodeId} {r : NodeRow} (hr : result.2.row? k = some r) : t.row? k = some r ∨
    (∃ parts ∈ sourceFiles disk, IsTouched disk t.files parts ∧ k.map fileOf = some (relativeText parts)) ∨
      t.row? k = none ∧ IsFolderRow k r := by
  rw [← S.tidy.row_graph] at hr
  rw [← ht.tidy.row_graph]
  exact S.rows.grow hr

include h

/-- Keys of files and directories that were in use stay in use. -/
theorem isSome_row? {k : NodeId} (hk : k.map fileOf = k) (hsome : (t.row? k).isSome = true) :
    (result.2.row? k).isSome = true := by
  rw [← S.tidy.row_graph]
  exact S.rows.isSome h hk (by rwa [ht.tidy.row_graph])

/-- **Incremental runs keep tables sound.** -/
theorem sound : result.2.Sound where
  tidy := S.tidy
  shaped :=
    { shape := by
        intro k r hr
        rw [← S.tidy.row_graph] at hr
        exact S.rows.shape h (ht.tidy.shaped_graph ht.shaped).shape hr
      root := S.isSome_row? h ht (by decide +kernel) ht.shaped.root
      file := by
        intro k r path hr hpath
        -- a path of a touched file has the row of the file, and other paths have the row that they had
        by_cases htouched : ∃ parts ∈ sourceFiles disk, IsTouched disk t.files parts ∧ path = relativeText parts
        · obtain ⟨parts, hm, ht', rfl⟩ := htouched
          obtain ⟨content, hread, -⟩ := h.content hm
          obtain ⟨r', hr', hkind⟩ := h.fileRow_self hm hread
          exact ⟨r', (S.row?_of_touched hm ht' hread (h.map_fileOf_self hm)).trans hr', hkind⟩
        · rcases S.row?_cases ht hr with hold | ⟨parts, hm, ht', hk⟩ | ⟨-, -, hnone, -⟩
          · obtain ⟨r', hr', hkind⟩ := ht.shaped.file hold hpath
            refine ⟨r', S.row?_of_kept ht hr' fun parts hm ht' hk => htouched ⟨parts, hm, ht', ?_⟩, hkind⟩
            rw [ht.shaped.map_fileOf hr' hkind] at hk
            exact Option.some.inj hk
          · obtain ⟨content, hread, -⟩ := h.content hm
            rw [S.row?_of_touched hm ht' hread hk] at hr
            have hrel := (Source.fileRow_eq_some (h.plain hm).2 hr).2.2.1
            exact absurd ⟨parts, hm, ht', Option.some.inj (hpath.symm.trans hrel)⟩ htouched
          · cases hnone.symm.trans hpath }

end Saves

variable [Scalar R]

theorem Indexable.sound_indexAll (h : Indexable s disk) (t : Tables R) : (indexAll s disk t).2.Sound where
  tidy := h.tidy_indexAll t
  shaped := by
    rw [show (indexAll s disk t).2.row? = (s.built disk).row from funext (h.row?_indexAll t)]
    exact h.shaped_built

/-- After a full run, the source files are recorded, and what was recorded before. -/
theorem Indexable.digest?_isSome_indexAll_iff (h : Indexable s disk) (t : Tables R) (path : String) :
    ((indexAll s disk t).2.digest? path).isSome = true ↔
      path ∈ sourcePaths disk ∨ (t.digest? path).isSome = true := by
  by_cases hpath : path ∈ sourcePaths disk
  · simp only [hpath, true_or, iff_true]
    obtain ⟨parts, hm, rfl⟩ := mem_sourcePaths.mp hpath
    obtain ⟨content, -, hdigest, -⟩ := h.content hm
    rw [h.digest?_indexAll_of_mem t hm, hdigest]
    rfl
  · rw [h.digest?_indexAll_of_not_mem t fun parts hm heq => hpath (mem_sourcePaths.mpr ⟨parts, hm, heq⟩)]
    simp [hpath]

section Changes

variable (h : Indexable s disk) (ht : t.Sound) {files : List (List String)} (hfiles : files.Perm (sourceFiles disk))

include h ht hfiles

/-- An incremental run leaves the tables as they were, or saves what it found. -/
theorem Indexable.unchanged_or_saves :
    (indexChangesAlong s disk files t).2 = t ∨ Saves s disk t (indexChangesAlong s disk files t) := by
  rcases indexChangesAlong_cases h ht.tidy ht.shaped hfiles with ⟨-, hmany⟩ | ⟨parts, -, hmissing, -⟩ | S
  · exact Or.inl (by rw [hmany])
  · exact Or.inl (by rw [hmissing])
  · exact Or.inr S

theorem Indexable.saves_of_ok {changes : Changes} (hdone : (indexChangesAlong s disk files t).1 = .ok changes) :
    Saves s disk t (indexChangesAlong s disk files t) := by
  rcases indexChangesAlong_cases h ht.tidy ht.shaped hfiles with ⟨-, hmany⟩ | ⟨parts, -, hmissing, -⟩ | S
  · rw [hmany] at hdone
    cases hdone
  · rw [hmissing] at hdone
    cases hdone
  · exact S

theorem Indexable.sound_indexChangesAlong : (indexChangesAlong s disk files t).2.Sound := by
  rcases h.unchanged_or_saves ht hfiles with hsame | S
  · rwa [hsame]
  · exact S.sound h ht

end Changes

/-- The databases that full and incremental runs can leave, starting without one, while the project changes between
the runs. An incremental run may meet the source files in any order, and a run that fails counts as well. Which runs
take place is limited by `allowed`: it is asked whether the run is incremental, on which tables, and for which
project. -/
inductive History (s : Source) (allowed : Bool → Tables R → Entry → Prop) : Option (Tables R) → Prop
  | start : History s allowed none
  | all {t? : Option (Tables R)} {disk : Entry} : History s allowed t? → Indexable s disk →
      allowed false (t?.getD {}) disk → History s allowed (some (indexAll s disk (t?.getD {})).2)
  | changes {t : Tables R} {disk : Entry} {files : List (List String)} : History s allowed (some t) →
      Indexable s disk → files.Perm (sourceFiles disk) → allowed true t disk →
      History s allowed (some (indexChangesAlong s disk files t).2)

/-- The databases that any runs can leave. -/
def Reachable (s : Source) (t? : Option (Tables R)) : Prop :=
  History s (fun _ _ _ => True) t?

/-- **The tables of a history are sound.** -/
theorem History.sound {allowed : Bool → Tables R → Entry → Prop} {t? : Option (Tables R)}
    (H : History s allowed t?) : ∀ t ∈ t?, t.Sound := by
  induction H with
  | start => simp
  | all _ h _ _ =>
    rintro t ⟨⟩
    exact h.sound_indexAll _
  | changes _ h hfiles _ ih =>
    rintro t ⟨⟩
    exact h.sound_indexChangesAlong (ih _ rfl) hfiles

/-! ## Small projects -/

namespace Sample

/-- A project in which every file that is not empty declares the function `fetch`. -/
def source : Source where
  path := ⟨"/", ["project"]⟩
  read _ text := .node "module" text 0 0
    (if text.isEmpty then [] else [.node "function_definition" text 0 0 [.node "identifier" "fetch" 0 0 []]])

/-- A project in which every file declares the words of its text as functions. -/
def words : Source where
  path := ⟨"/", ["project"]⟩
  read _ text := .node "module" text 0 0 ((Text.cutAt ' ' text).map fun word =>
    .node "function_definition" text 0 0 [.node "identifier" word 0 0 []])

/-- A file with a text. -/
def file (text : String) : Entry :=
  .file text.toUTF8 false

/-- A directory with some items. -/
def folder (items : List (String × Entry)) : Entry :=
  .folder items false

/-- The tables after the first full run. -/
def indexed (disk : Entry) : Tables Float :=
  (indexAll source disk {}).2

theorem reachable_indexed {disk : Entry} (h : Indexable source disk) : Reachable source (some (indexed disk)) :=
  .all .start h trivial

/-- Whether an operation ended well. -/
def endsWell {α : Type} : Except Failure α → Bool
  | .ok _ => true
  | .error _ => false

theorem exists_of_endsWell {α : Type} {outcome : Except Failure α} (h : endsWell outcome = true) :
    ∃ a, outcome = .ok a := by
  cases outcome with
  | ok a => exact ⟨a, rfl⟩
  | error f => cases h

end Sample

end CodeAtlas
