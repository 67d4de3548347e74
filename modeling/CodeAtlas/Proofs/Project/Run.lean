import Mathlib
import CodeAtlas.Proofs.Project.AddedFile

/-!
# The files of an incremental run

An incremental run goes through the source files of a project in some order. A file with the digest that is known for
it is passed over; a file without one is new; any other file was edited. New and edited files are touched: the rows
that belong to them become those of the file as it is now. All other rows stay as they were, except that directories
above new files appear where they were missing.

## Main definitions

* `IsNew`, `IsTouched`: what is known about a file compared with the file
* `Graph.Follows`, `Progress.Follows`: what is true of a run after some files

## Main results

* `indexFile_of_same`, `indexFile_of_edited`, `indexFile_of_new`: one file
* `Progress.Follows.step`: one more file
* `Progress.Follows.run`: a whole run
-/

namespace CodeAtlas

open Store

/-- A file that nothing is known about. -/
def IsNew (known : List (String × String)) (parts : List String) : Prop :=
  known.lookup (relativeText parts) = none

/-- A file that is new or was edited. -/
def IsTouched (disk : Entry) (known : List (String × String)) (parts : List String) : Prop :=
  known.lookup (relativeText parts) ≠ fileDigest? disk parts

/-- A new file is touched. -/
theorem IsNew.isTouched {disk : Entry} {known : List (String × String)} {parts : List String} {content : ByteArray}
    (hnew : IsNew known parts) (hread : disk.readFile false parts = some content) : IsTouched disk known parts := by
  intro heq
  rw [fileDigest?_of_readFile hread] at heq
  cases hnew.symm.trans heq

theorem mem_searchedIn {g : Graph} (h : g.Tidy) {path : String} {k : NodeId} :
    k ∈ searchedIn g path ↔ ∃ r, g.row k = some r ∧ r.filePath = some path ∧ r.isSearchable = true := by
  simp only [searchedIn, List.mem_map, List.mem_filter, Bool.and_eq_true, beq_iff_eq, Prod.exists]
  constructor
  · rintro ⟨j, n, ⟨hm, hfile, hsearch⟩, rfl⟩
    obtain ⟨r, hr, hok, -, -, hpath⟩ := h.row_of_find? (Graph.find?_of_mem h.distinct hm)
    exact ⟨r, hr, hpath.trans hfile, (NodeRow.isSearchable_of_ofNode? hok).symm.trans hsearch⟩
  · rintro ⟨r, hr, hfile, hsearch⟩
    obtain ⟨n, hn, hok, -, -, hpath, -⟩ := h.find?_of_row hr
    exact ⟨k, n, ⟨Graph.mem_of_find? hn, hpath.symm.trans hfile,
      (NodeRow.isSearchable_of_ofNode? hok).trans hsearch⟩, rfl⟩

/-! ## One file -/

section File

variable {s : Source} {disk : Entry} {known : List (String × String)} {p : Progress} {parts : List String}

theorem indexFile_of_same (h : Indexable s disk) (hm : parts ∈ sourceFiles disk)
    (hsame : ¬ IsTouched disk known parts) : indexFile s disk known p parts = .ok p := by
  obtain ⟨content, -, hdigest, -⟩ := h.content hm
  have hknown : known.lookup (relativeText parts) = some (Digest.sha256 content) := by
    rw [← hdigest]
    exact not_not.mp hsame
  simp only [indexFile, hdigest, hknown, if_true]

variable {content : ByteArray}

theorem Indexable.addFile_eq (h : Indexable s disk) (hm : parts ∈ sourceFiles disk)
    (hread : disk.readFile false parts = some content) {g : Graph} (hg : g.Tidy)
    (hshape : ∀ {k r}, g.row k = some r → IsFolderRow k r ∨ IsRowOfFile k r) :
    ∃ part, g.addFile s disk parts (s.absolute parts) (relativeText parts)
        (some (Path.relative parts).parent.toString) =
      if (g.row (folderId parts.dropLast)).isSome then
        .ofList (g.removeFile (relativeText parts) ++ s.fileEdits parts content)
      else ⟨part, some (.missingNode (folderId parts.dropLast))⟩ := by
  rw [← folderId_dropLast]
  refine hg.addFile_eq hshape (h.plain hm).1 (h.plain hm).2 (h.forPath?_isSome hm) ?_
  rw [h.readable]
  exact hread

/-- An edited file is added again if the directory above it is there, and fails otherwise. -/
theorem indexFile_of_edited (h : Indexable s disk) (hm : parts ∈ sourceFiles disk)
    (hread : disk.readFile false parts = some content) (hg : p.graph.Tidy)
    (hshape : ∀ {k r}, p.graph.row k = some r → IsFolderRow k r ∨ IsRowOfFile k r)
    (hknown : ¬ IsNew known parts) (htouched : IsTouched disk known parts) :
    indexFile s disk known p parts =
      if (p.graph.row (folderId parts.dropLast)).isSome then
        .ok { p with
          graph := p.graph.withFile s parts content
          digests := p.digests ++ [(relativeText parts, Digest.sha256 content)]
          updatedIds := p.updatedIds ++ searchedIn p.graph (relativeText parts) ++
            searchedIn (p.graph.withFile s parts content) (relativeText parts)
          updatedFiles := p.updatedFiles + 1 }
      else .error (.missingNode (folderId parts.dropLast)) := by
  obtain ⟨content', hread', hdigest, -⟩ := h.content hm
  obtain rfl : content' = content := Option.some.inj (hread'.symm.trans hread)
  obtain ⟨old, hold⟩ := Option.ne_none_iff_exists'.mp hknown
  have hne : old ≠ Digest.sha256 content' := by
    rintro rfl
    exact htouched (hold.trans hdigest.symm)
  obtain ⟨part, hadd⟩ := h.addFile_eq hm hread hg hshape
  unfold indexFile
  simp only [hdigest, hold, if_neg hne, hadd]
  cases (p.graph.row (folderId parts.dropLast)).isSome with
  | true => rfl
  | false => rfl

/-- The graph with the missing directories above a file. -/
def Graph.withFolders (g : Graph) (parts : List String) : Graph :=
  g.applyAll (g.addFolders (.relative parts))

/-- A new file is always added: the directories above it are put first. -/
theorem indexFile_of_new (h : Indexable s disk) (hm : parts ∈ sourceFiles disk)
    (hread : disk.readFile false parts = some content) (hg : p.graph.Tidy)
    (hshape : ∀ {k r}, p.graph.row k = some r → IsFolderRow k r ∨ IsRowOfFile k r)
    (hroot : (p.graph.row Graph.rootKey).isSome = true) (hknown : IsNew known parts) :
    indexFile s disk known p parts =
      .ok { p with
        graph := (p.graph.withFolders parts).withFile s parts content
        digests := p.digests ++ [(relativeText parts, Digest.sha256 content)]
        addedIds := p.addedIds ++
          (searchedIn ((p.graph.withFolders parts).withFile s parts content) (relativeText parts)).filter
            fun id => !(p.graph.withFolders parts).contains id
        addedFiles := p.addedFiles + 1 } := by
  obtain ⟨content', hread', hdigest, -⟩ := h.content hm
  obtain rfl : content' = content := Option.some.inj (hread'.symm.trans hread)
  have hplain := (h.plain hm).2
  have hshape' : ∀ {k r}, (p.graph.withFolders parts).row k = some r → IsFolderRow k r ∨ IsRowOfFile k r := by
    intro k r hr
    rcases hg.row_addFolders_cases hplain hr with hr | ⟨-, hr⟩
    · exact hshape hr
    · exact Or.inl hr
  obtain ⟨part, hadd⟩ := h.addFile_eq hm hread (hg.addFolders hplain) hshape'
  rw [hg.row_addFolders_above hplain hroot, if_pos rfl] at hadd
  have hnew : known.lookup (relativeText parts) = none := hknown
  unfold indexFile
  simp only [hdigest, hnew, hadd]
  rfl

end File

/-! ## The rows after some files -/

/-- What is true of a graph `g` after an incremental run has gone through the files `done`, starting from `g₀`. -/
structure Graph.Follows (s : Source) (disk : Entry) (known : List (String × String)) (g₀ : Graph)
    (done : List (List String)) (g : Graph) : Prop where
  tidy : g.Tidy
  sources : ∀ parts ∈ done, parts ∈ sourceFiles disk
  /-- The rows that belong to a touched file are those of the file. -/
  own : ∀ {parts content k}, parts ∈ done → IsTouched disk known parts → disk.readFile false parts = some content →
    k.map fileOf = some (relativeText parts) → g.row k = s.fileRow parts content k
  /-- All other rows are kept. -/
  keep : ∀ {k r}, g₀.row k = some r →
    (∀ parts ∈ done, IsTouched disk known parts → k.map fileOf ≠ some (relativeText parts)) → g.row k = some r
  /-- Rows that are neither kept nor belong to touched files are rows of directories that were missing. -/
  grow : ∀ {k r}, g.row k = some r → g₀.row k = some r ∨
    (∃ parts ∈ done, IsTouched disk known parts ∧ k.map fileOf = some (relativeText parts)) ∨
      g₀.row k = none ∧ IsFolderRow k r
  above : ∀ parts ∈ done, IsNew known parts → (g.row (folderId parts.dropLast)).isSome = true

theorem not_isSearchable_of_fileKind {r : NodeRow} (h : r.kind = Node.fileKind) : r.isSearchable = false := by
  rw [NodeRow.isSearchable, h]
  decide

namespace Graph.Follows

variable {s : Source} {disk : Entry} {known : List (String × String)} {g₀ g base : Graph}
  {done : List (List String)} {parts : List String} {content : ByteArray}

theorem refl (h : g₀.Tidy) : Follows s disk known g₀ [] g₀ where
  tidy := h
  sources := by simp
  own := fun hm => absurd hm List.not_mem_nil
  keep := fun hr _ => hr
  grow := fun hr => Or.inl hr
  above := fun _ hm => absurd hm List.not_mem_nil

theorem shape (F : Follows s disk known g₀ done g) (h : Indexable s disk)
    (hshape : ∀ {k r}, g₀.row k = some r → IsFolderRow k r ∨ IsRowOfFile k r) {k : NodeId} {r : NodeRow}
    (hr : g.row k = some r) : IsFolderRow k r ∨ IsRowOfFile k r := by
  rcases F.grow hr with hr | ⟨parts, hm, ht, hk⟩ | ⟨-, hr⟩
  · exact hshape hr
  · obtain ⟨content, hread, -⟩ := h.content (F.sources parts hm)
    rw [F.own hm ht hread hk] at hr
    exact Or.inr (.of_fileRow (h.plain (F.sources parts hm)).2 hr)
  · exact Or.inl hr

/-- Only the rows of the graph count, and not the order of the files. -/
theorem congr (F : Follows s disk known g₀ done g) {g' : Graph} (hg' : g'.Tidy) (hrow : ∀ k, g'.row k = g.row k)
    {done' : List (List String)} (hdone : ∀ parts, parts ∈ done' ↔ parts ∈ done) :
    Follows s disk known g₀ done' g' where
  tidy := hg'
  sources parts hm := F.sources parts ((hdone parts).mp hm)
  own {parts content k} hm ht hread hk := (hrow k).trans (F.own ((hdone parts).mp hm) ht hread hk)
  keep {k r} hr hnot := (hrow k).trans (F.keep hr fun q hq => hnot q ((hdone q).mpr hq))
  grow {k r} hr := (F.grow ((hrow k).symm.trans hr)).imp_right fun h =>
    h.imp_left fun ⟨q, hq, h⟩ => ⟨q, (hdone q).mpr hq, h⟩
  above parts hm hnew := by
    rw [hrow]
    exact F.above parts ((hdone parts).mp hm) hnew

/-- Keys of files and directories that were in use stay in use. -/
theorem isSome (F : Follows s disk known g₀ done g) (h : Indexable s disk) {k : NodeId} (hk : k.map fileOf = k)
    (hsome : (g₀.row k).isSome = true) : (g.row k).isSome = true := by
  obtain ⟨r, hr⟩ := Option.isSome_iff_exists.mp hsome
  by_cases htouched : ∃ q ∈ done, IsTouched disk known q ∧ k.map fileOf = some (relativeText q)
  · obtain ⟨q, hq, ht, hkq⟩ := htouched
    obtain ⟨content, hread, -, hfits⟩ := h.content (F.sources q hq)
    rw [F.own hq ht hread hkq, ← hk, hkq]
    exact Source.fileRow_self (h.forPath?_isSome (F.sources q hq)) hfits
  · rw [F.keep hr fun q hq ht hkq => htouched ⟨q, hq, ht, hkq⟩]
    rfl

theorem sources_concat (F : Follows s disk known g₀ done g) (hm : parts ∈ sourceFiles disk) :
    ∀ q ∈ done ++ [parts], q ∈ sourceFiles disk := by
  intro q hq
  rcases List.mem_append.mp hq with hq | hq
  · exact F.sources q hq
  · rwa [List.mem_singleton.mp hq]

/-- Different files own different keys. -/
theorem key_ne (F : Follows s disk known g₀ done g) (h : Indexable s disk) (hm : parts ∈ sourceFiles disk)
    (hnot : parts ∉ done) {q : List String} (hq : q ∈ done) {k : NodeId}
    (hk : k.map fileOf = some (relativeText parts)) : k.map fileOf ≠ some (relativeText q) := by
  intro hkq
  rw [h.parts_inj (F.sources q hq) hm (Option.some.inj (hkq.symm.trans hk))] at hq
  exact hnot hq

/-- More directories do not change the rows of the files that were touched. -/
theorem own_of_grown (F : Follows s disk known g₀ done g) (h : Indexable s disk)
    (hkeep : ∀ {k r}, g.row k = some r → base.row k = some r)
    (hgrow : ∀ {k r}, base.row k = some r → g.row k = some r ∨ g.row k = none ∧ IsFolderRow k r)
    {q : List String} (hq : q ∈ done) (ht : IsTouched disk known q) (hread : disk.readFile false q = some content)
    {k : NodeId} (hk : k.map fileOf = some (relativeText q)) : base.row k = s.fileRow q content k := by
  have hown := F.own hq ht hread hk
  cases hfile : s.fileRow q content k with
  | some r => exact hkeep (hown.trans hfile)
  | none =>
    rw [Option.eq_none_iff_forall_not_mem]
    intro r hr
    rcases hgrow hr with hr | ⟨-, -, -, -, hkey⟩
    · cases (hown.trans hfile).symm.trans hr
    · -- a key that a directory and a file could share is that of the file itself, which has a row
      exact h.map_fileOf_ne_of_fileRow (F.sources q hq) hread hk hfile hkey

/-- A file that is passed over. -/
theorem pass (F : Follows s disk known g₀ done g) (hm : parts ∈ sourceFiles disk)
    (hsame : ¬ IsTouched disk known parts) (hknown : ¬ IsNew known parts) :
    Follows s disk known g₀ (done ++ [parts]) g where
  tidy := F.tidy
  sources := F.sources_concat hm
  own {q content k} hq ht := by
    rcases List.mem_append.mp hq with hq | hq
    · exact F.own hq ht
    · rw [List.mem_singleton.mp hq] at ht
      exact absurd ht hsame
  keep hr hnot := F.keep hr fun q hq => hnot q (List.mem_append_left _ hq)
  grow hr := (F.grow hr).imp_right fun h => h.imp_left fun ⟨q, hq, h⟩ => ⟨q, List.mem_append_left _ hq, h⟩
  above q hq hnew := by
    rcases List.mem_append.mp hq with hq | hq
    · exact F.above q hq hnew
    · rw [List.mem_singleton.mp hq] at hnew
      exact absurd hnew hknown

section Touched

/- A file is touched: it is added to `base`, which has the rows of `g` and maybe some directories more. -/
variable (F : Follows s disk known g₀ done g) (h : Indexable s disk)
  (hshape : ∀ {k r}, g₀.row k = some r → IsFolderRow k r ∨ IsRowOfFile k r)
  (hm : parts ∈ sourceFiles disk) (hread : disk.readFile false parts = some content)
  (hbase : base.Tidy) (hkeep : ∀ {k r}, g.row k = some r → base.row k = some r)
  (hgrow : ∀ {k r}, base.row k = some r → g.row k = some r ∨ g.row k = none ∧ IsFolderRow k r)

include F h hshape hm hread hbase hgrow

theorem row_withFile (k : NodeId) : (base.withFile s parts content).row k =
    if k.map fileOf = some (relativeText parts) then s.fileRow parts content k else base.row k := by
  refine hbase.row_withFile (fun hr => ?_) (h.plain hm).2 (h.fits parts hm content hread) k
  rcases hgrow hr with hr | ⟨-, hr⟩
  · exact F.shape h hshape hr
  · exact Or.inl hr

/-- Keys of files and directories stay in use. -/
theorem isSome_withFile {k : NodeId} (hk : k.map fileOf = k) (hsome : (base.row k).isSome = true) :
    ((base.withFile s parts content).row k).isSome = true := by
  rw [row_withFile F h hshape hm hread hbase hgrow]
  split
  · next hkey =>
    obtain rfl : k = some (relativeText parts) := hk.symm.trans hkey
    exact Source.fileRow_self (h.forPath?_isSome hm) (h.fits parts hm content hread)
  · exact hsome

include hkeep

/-- A file that is touched. -/
theorem touch (hnot : parts ∉ done) (ht : IsTouched disk known parts)
    (habove : IsNew known parts → (base.row (folderId parts.dropLast)).isSome = true) :
    Follows s disk known g₀ (done ++ [parts]) (base.withFile s parts content) where
  tidy := hbase.withFile (h.fits parts hm content hread)
  sources := F.sources_concat hm
  own {q c k} hq hqt hqread hk := by
    rw [row_withFile F h hshape hm hread hbase hgrow]
    rcases List.mem_append.mp hq with hq | hq
    · rw [if_neg fun hkey => F.key_ne h hm hnot hq hkey hk]
      exact F.own_of_grown h hkeep hgrow hq hqt hqread hk
    · rw [List.mem_singleton.mp hq] at hqread hk ⊢
      obtain rfl : content = c := Option.some.inj (hread.symm.trans hqread)
      rw [if_pos hk]
  keep {k r} hr hfree := by
    have hpart := hfree parts (List.mem_append_right _ List.mem_cons_self) ht
    rw [row_withFile F h hshape hm hread hbase hgrow, if_neg hpart]
    exact hkeep (F.keep hr fun q hq => hfree q (List.mem_append_left _ hq))
  grow {k r} hr := by
    by_cases htouched : ∃ q ∈ done ++ [parts], IsTouched disk known q ∧ k.map fileOf = some (relativeText q)
    · exact Or.inr (Or.inl htouched)
    have hfree : ∀ q ∈ done, IsTouched disk known q → k.map fileOf ≠ some (relativeText q) :=
      fun q hq hqt hk => htouched ⟨q, List.mem_append_left _ hq, hqt, hk⟩
    rw [row_withFile F h hshape hm hread hbase hgrow,
      if_neg fun hk => htouched ⟨parts, List.mem_append_right _ List.mem_cons_self, ht, hk⟩] at hr
    rcases hgrow hr with hr | ⟨hnone, hfolder⟩
    · rcases F.grow hr with hr | ⟨q, hq, hqt, hk⟩ | hr
      · exact Or.inl hr
      · exact absurd hk (hfree q hq hqt)
      · exact Or.inr (Or.inr hr)
    · -- a directory that was missing in `g` was missing in `g₀`, because no touched file owns its key
      refine Or.inr (Or.inr ⟨?_, hfolder⟩)
      rw [Option.eq_none_iff_forall_not_mem]
      intro r₀ hr₀
      cases hnone.symm.trans (F.keep hr₀ hfree)
  above q hq hnew := by
    refine isSome_withFile F h hshape hm hread hbase hgrow
      (folderId_map_fileOf (plain_dropLast (h.plain (F.sources_concat hm q hq)).2)) ?_
    rcases List.mem_append.mp hq with hq | hq
    · obtain ⟨r, hr⟩ := Option.isSome_iff_exists.mp (F.above q hq hnew)
      rw [hkeep hr]
      rfl
    · rw [List.mem_singleton.mp hq] at hnew ⊢
      exact habove hnew

end Touched

end Graph.Follows

/-! ## The whole progress after some files -/

/-- What is true of a progress `p` after an incremental run has gone through the files `done`, starting from `g₀`. -/
structure Progress.Follows (s : Source) (disk : Entry) (known : List (String × String)) (g₀ : Graph)
    (done : List (List String)) (p : Progress) : Prop where
  rows : Graph.Follows s disk known g₀ done p.graph
  digests : ∀ {path digest}, (path, digest) ∈ p.digests ↔ ∃ parts ∈ done, IsTouched disk known parts ∧
    path = relativeText parts ∧ fileDigest? disk parts = some digest
  /-- The declarations of new files whose keys were not in use. -/
  added : ∀ {k}, k ∈ p.addedIds ↔ ∃ parts ∈ done, IsNew known parts ∧ g₀.row k = none ∧
    ∃ content r, disk.readFile false parts = some content ∧ s.fileRow parts content k = some r ∧
      r.isSearchable = true
  updated : ∀ {parts content k r}, parts ∈ done → ¬ IsNew known parts → IsTouched disk known parts →
    disk.readFile false parts = some content → s.fileRow parts content k = some r → r.isSearchable = true →
      k ∈ p.updatedIds
  of_updated : ∀ {k}, k ∈ p.updatedIds → ∃ parts ∈ done, ¬ IsNew known parts ∧ IsTouched disk known parts ∧
    k.map fileOf = some (relativeText parts)

namespace Progress.Follows

variable {s : Source} {disk : Entry} {known : List (String × String)} {g₀ : Graph} {p p' : Progress}
  {done : List (List String)} {parts : List String} {content : ByteArray}

theorem refl (h : g₀.Tidy) : Follows s disk known g₀ [] { graph := g₀ } where
  rows := .refl h
  digests := by simp
  added := by simp
  updated := fun hm => absurd hm List.not_mem_nil
  of_updated := fun hk => absurd hk List.not_mem_nil

theorem exists_mem_append_singleton {P : List String → Prop} :
    (∃ q ∈ done ++ [parts], P q) ↔ (∃ q ∈ done, P q) ∨ P parts := by
  simp only [List.mem_append, List.mem_singleton, or_and_right, exists_or, exists_eq_left]

theorem pass (F : Follows s disk known g₀ done p) (hm : parts ∈ sourceFiles disk)
    (hsame : ¬ IsTouched disk known parts) (hknown : ¬ IsNew known parts) :
    Follows s disk known g₀ (done ++ [parts]) p where
  rows := F.rows.pass hm hsame hknown
  digests := by
    intro path digest
    rw [F.digests, exists_mem_append_singleton]
    simp [hsame]
  added := by
    intro k
    rw [F.added, exists_mem_append_singleton]
    simp [hknown]
  updated := by
    intro q c k r hq hqk hqt
    rcases List.mem_append.mp hq with hq | hq
    · exact F.updated hq hqk hqt
    · rw [List.mem_singleton.mp hq] at hqt
      exact absurd hqt hsame
  of_updated hk := exists_mem_append_singleton.mpr (Or.inl (F.of_updated hk))

/-- The declarations that a new file brings under keys that were not in use. -/
theorem mem_added_iff (F : Follows s disk known g₀ done p) (h : Indexable s disk)
    (hshape : ∀ {k r}, g₀.row k = some r → IsFolderRow k r ∨ IsRowOfFile k r)
    (hm : parts ∈ sourceFiles disk) (hread : disk.readFile false parts = some content) (hnot : parts ∉ done)
    {base : Graph} (hbase : base.Tidy) (hkeep : ∀ {k r}, p.graph.row k = some r → base.row k = some r)
    (hgrow : ∀ {k r}, base.row k = some r → p.graph.row k = some r ∨ p.graph.row k = none ∧ IsFolderRow k r)
    {k : NodeId} :
    k ∈ (searchedIn (base.withFile s parts content) (relativeText parts)).filter (fun id => !base.contains id) ↔
      g₀.row k = none ∧ ∃ r, s.fileRow parts content k = some r ∧ r.isSearchable = true := by
  have hplain := (h.plain hm).2
  have hfits := h.fits parts hm content hread
  have hrow := F.rows.row_withFile h hshape hm hread hbase hgrow
  rw [List.mem_filter, mem_searchedIn (hbase.withFile hfits), hbase.contains_eq, Bool.not_eq_true',
    Option.isSome_eq_false_iff, Option.isNone_iff_eq_none, hrow]
  constructor
  · rintro ⟨⟨r, hr, hfile, hsearch⟩, hnone⟩
    split at hr
    · next hk =>
      refine ⟨?_, r, hr, hsearch⟩
      rw [Option.eq_none_iff_forall_not_mem]
      intro r₀ hr₀
      cases hnone.symm.trans (hkeep (F.rows.keep hr₀ fun q hq _ => F.rows.key_ne h hm hnot hq hk))
    · rw [hnone] at hr
      cases hr
  · rintro ⟨hnone, r, hr, hsearch⟩
    obtain ⟨hk, -, hfile, hkind⟩ := Source.fileRow_eq_some hplain hr
    rw [if_pos hk]
    refine ⟨⟨r, hr, hfile, hsearch⟩, ?_⟩
    -- a searched row is that of a declaration, so no directory has its key
    have hkey : k.map fileOf ≠ k := by
      intro heq
      rw [not_isSearchable_of_fileKind (hkind.mpr (heq.symm.trans hk))] at hsearch
      cases hsearch
    rw [Option.eq_none_iff_forall_not_mem]
    intro r₀ hr₀
    rcases hgrow hr₀ with hr₀ | ⟨-, -, -, -, hfolder⟩
    · rcases F.rows.grow hr₀ with hr₀ | ⟨q, hq, -, hkq⟩ | ⟨-, -, -, -, hfolder⟩
      · cases hnone.symm.trans hr₀
      · exact F.rows.key_ne h hm hnot hq hk hkq
      · exact hkey hfolder
    · exact hkey hfolder

section Step

variable (F : Follows s disk known g₀ done p) (h : Indexable s disk)
  (hshape : ∀ {k r}, g₀.row k = some r → IsFolderRow k r ∨ IsRowOfFile k r)
  (hm : parts ∈ sourceFiles disk) (hread : disk.readFile false parts = some content) (hnot : parts ∉ done)

include F h hshape hm hread hnot

theorem step_edited (hknown : ¬ IsNew known parts) (ht : IsTouched disk known parts) :
    Follows s disk known g₀ (done ++ [parts])
      { p with
        graph := p.graph.withFile s parts content
        digests := p.digests ++ [(relativeText parts, Digest.sha256 content)]
        updatedIds := p.updatedIds ++ searchedIn p.graph (relativeText parts) ++
          searchedIn (p.graph.withFile s parts content) (relativeText parts)
        updatedFiles := p.updatedFiles + 1 } := by
  have hdigest := fileDigest?_of_readFile hread
  have hrow := F.rows.row_withFile h hshape hm hread F.rows.tidy fun hr => Or.inl hr
  have htidy := F.rows.tidy.withFile (h.fits parts hm content hread)
  refine ⟨F.rows.touch h hshape hm hread F.rows.tidy id (fun hr => Or.inl hr) hnot ht fun hnew => absurd hnew hknown,
    ?_, ?_, ?_, ?_⟩
  · intro path digest
    rw [List.mem_append, F.digests, exists_mem_append_singleton, List.mem_singleton, Prod.mk.injEq, hdigest,
      Option.some_inj]
    simp [ht, eq_comm]
  · intro k
    rw [F.added, exists_mem_append_singleton]
    simp [hknown]
  · intro q c k r hq hqk hqt hqread hr hsearch
    rw [List.mem_append, List.mem_append]
    rcases List.mem_append.mp hq with hq | hq
    · exact Or.inl (Or.inl (F.updated hq hqk hqt hqread hr hsearch))
    · rw [List.mem_singleton.mp hq] at hqread hr
      obtain rfl : content = c := Option.some.inj (hread.symm.trans hqread)
      obtain ⟨hk, -, hfile, -⟩ := Source.fileRow_eq_some (h.plain hm).2 hr
      exact Or.inr ((mem_searchedIn htidy).mpr ⟨r, by rw [hrow, if_pos hk, hr], hfile, hsearch⟩)
  · intro k hk
    refine exists_mem_append_singleton.mpr ?_
    rw [List.mem_append, List.mem_append] at hk
    rcases hk with (hk | hk) | hk
    · exact Or.inl (F.of_updated hk)
    · obtain ⟨r, hr, hfile, -⟩ := (mem_searchedIn F.rows.tidy).mp hk
      exact Or.inr ⟨hknown, ht, map_fileOf_of_filePath (F.rows.shape h hshape hr) hfile⟩
    · obtain ⟨r, hr, hfile, -⟩ := (mem_searchedIn htidy).mp hk
      refine Or.inr ⟨hknown, ht, ?_⟩
      rw [hrow] at hr
      split at hr
      · next hkey => exact hkey
      · exact map_fileOf_of_filePath (F.rows.shape h hshape hr) hfile

theorem step_new (hroot : (p.graph.row Graph.rootKey).isSome = true) (hnew : IsNew known parts) :
    Follows s disk known g₀ (done ++ [parts])
      { p with
        graph := (p.graph.withFolders parts).withFile s parts content
        digests := p.digests ++ [(relativeText parts, Digest.sha256 content)]
        addedIds := p.addedIds ++
          (searchedIn ((p.graph.withFolders parts).withFile s parts content) (relativeText parts)).filter
            fun id => !(p.graph.withFolders parts).contains id
        addedFiles := p.addedFiles + 1 } := by
  have hdigest := fileDigest?_of_readFile hread
  have ht : IsTouched disk known parts := hnew.isTouched hread
  have hplain := (h.plain hm).2
  have hbase : (p.graph.withFolders parts).Tidy := F.rows.tidy.addFolders hplain
  have hkeep : ∀ {k r}, p.graph.row k = some r → (p.graph.withFolders parts).row k = some r :=
    F.rows.tidy.row_of_addFolders hplain
  have hgrow : ∀ {k r}, (p.graph.withFolders parts).row k = some r →
      p.graph.row k = some r ∨ p.graph.row k = none ∧ IsFolderRow k r :=
    F.rows.tidy.row_addFolders_cases hplain
  refine ⟨F.rows.touch h hshape hm hread hbase hkeep hgrow hnot ht fun _ =>
    F.rows.tidy.row_addFolders_above hplain hroot, ?_, ?_, ?_, ?_⟩
  · intro path digest
    rw [List.mem_append, F.digests, exists_mem_append_singleton, List.mem_singleton, Prod.mk.injEq, hdigest,
      Option.some_inj]
    simp [ht, eq_comm]
  · intro k
    rw [List.mem_append, F.added, exists_mem_append_singleton,
      F.mem_added_iff h hshape hm hread hnot hbase hkeep hgrow]
    simp [hnew, hread]
  · intro q c k r hq hqk
    rcases List.mem_append.mp hq with hq | hq
    · exact F.updated hq hqk
    · rw [List.mem_singleton.mp hq] at hqk
      exact absurd hnew hqk
  · exact fun hk => exists_mem_append_singleton.mpr (Or.inl (F.of_updated hk))

end Step

/-! ## A whole run -/

/-- **One more file**: it fails if the file was edited and the directory above it has no row, and else it leads on. -/
theorem step (F : Follows s disk known g₀ done p) (h : Indexable s disk) (hg₀ : Shaped g₀.row)
    (hm : parts ∈ sourceFiles disk) (hnot : parts ∉ done) :
    (∃ p', indexFile s disk known p parts = .ok p' ∧ Follows s disk known g₀ (done ++ [parts]) p') ∨
      indexFile s disk known p parts = .error (.missingNode (folderId parts.dropLast)) ∧ ¬ IsNew known parts ∧
        IsTouched disk known parts ∧ g₀.row (folderId parts.dropLast) = none := by
  obtain ⟨content, hread, hdigest, -⟩ := h.content hm
  have hplain := (h.plain hm).2
  have hshape : ∀ {k r}, p.graph.row k = some r → IsFolderRow k r ∨ IsRowOfFile k r := F.rows.shape h hg₀.shape
  by_cases hnew : IsNew known parts
  · have hroot : (p.graph.row Graph.rootKey).isSome = true := F.rows.isSome h (by decide +kernel) hg₀.root
    exact Or.inl ⟨_, indexFile_of_new h hm hread F.rows.tidy hshape hroot hnew,
      F.step_new h hg₀.shape hm hread hnot hroot hnew⟩
  by_cases ht : IsTouched disk known parts
  · have hstep := indexFile_of_edited (p := p) h hm hread F.rows.tidy hshape hnew ht
    cases habove : (p.graph.row (folderId parts.dropLast)).isSome with
    | true =>
      rw [habove, if_pos rfl] at hstep
      exact Or.inl ⟨_, hstep, F.step_edited h hg₀.shape hm hread hnot hnew ht⟩
    | false =>
      rw [habove, if_neg Bool.false_ne_true] at hstep
      -- rows of directories are never lost, so this one was missing from the start
      refine Or.inr ⟨hstep, hnew, ht, ?_⟩
      by_contra hsome
      rw [F.rows.isSome h (folderId_map_fileOf (Graph.plain_dropLast hplain))
        (Option.isSome_iff_ne_none.mpr hsome)] at habove
      cases habove
  · exact Or.inl ⟨p, indexFile_of_same h hm ht, F.pass hm ht hnew⟩

/-- **A whole run** goes through all files, or stops at an edited file whose directory had no row. -/
theorem run (F : Follows s disk known g₀ done p) (h : Indexable s disk) (hg₀ : Shaped g₀.row)
    {files : List (List String)} (hfiles : ∀ parts ∈ files, parts ∈ sourceFiles disk) (hnodup : (done ++ files).Nodup) :
    (∃ p', files.foldlM (indexFile s disk known) p = .ok p' ∧ Follows s disk known g₀ (done ++ files) p') ∨
      ∃ parts ∈ files, files.foldlM (indexFile s disk known) p = .error (.missingNode (folderId parts.dropLast)) ∧
        ¬ IsNew known parts ∧ IsTouched disk known parts ∧ g₀.row (folderId parts.dropLast) = none := by
  induction files generalizing done p with
  | nil => exact Or.inl ⟨p, rfl, by rwa [List.append_nil]⟩
  | cons parts rest ih =>
    have hnot : parts ∉ done := fun hmem => List.disjoint_of_nodup_append hnodup hmem List.mem_cons_self
    rw [List.append_cons] at hnodup
    rw [List.foldlM_cons]
    rcases F.step h hg₀ (hfiles parts List.mem_cons_self) hnot with ⟨p', hok, F'⟩ | ⟨herror, hrest⟩
    · rw [hok, List.append_cons]
      rcases ih F' (fun q hq => hfiles q (List.mem_cons_of_mem _ hq)) hnodup with hrun | ⟨q, hq, hrun⟩
      · exact Or.inl hrun
      · exact Or.inr ⟨q, List.mem_cons_of_mem _ hq, hrun⟩
    · refine Or.inr ⟨parts, List.mem_cons_self, ?_, hrest⟩
      rw [herror]
      rfl

/-- Which declarations of the graph after a run were added or updated: those of touched files, except that those of a
new file had a key that was not in use. -/
theorem mem_changed_iff (F : Follows s disk known g₀ done p) (h : Indexable s disk) (hg₀ : Shaped g₀.row) {k : NodeId}
    {r : NodeRow} (hr : p.graph.row k = some r) (hsearch : r.isSearchable = true) :
    k ∈ p.addedIds ∨ k ∈ p.updatedIds ↔ ∃ parts ∈ done, r.filePath = some (relativeText parts) ∧
      IsTouched disk known parts ∧ (IsNew known parts → g₀.row k = none) := by
  constructor
  · rintro (hk | hk)
    · obtain ⟨parts, hm, hnew, hnone, content, r', hread, hr', -⟩ := F.added.mp hk
      obtain ⟨hkey, -, hfile, -⟩ := Source.fileRow_eq_some (h.plain (F.rows.sources parts hm)).2 hr'
      have ht : IsTouched disk known parts := hnew.isTouched hread
      obtain rfl : r' = r := Option.some.inj (hr'.symm.trans ((F.rows.own hm ht hread hkey).symm.trans hr))
      exact ⟨parts, hm, hfile, ht, fun _ => hnone⟩
    · obtain ⟨parts, hm, hknown, ht, hkey⟩ := F.of_updated hk
      obtain ⟨content, hread, -⟩ := h.content (F.rows.sources parts hm)
      rw [F.rows.own hm ht hread hkey] at hr
      exact ⟨parts, hm, (Source.fileRow_eq_some (h.plain (F.rows.sources parts hm)).2 hr).2.2.1, ht,
        fun hnew => absurd hnew hknown⟩
  · rintro ⟨parts, hm, hfile, ht, hfree⟩
    obtain ⟨content, hread, -⟩ := h.content (F.rows.sources parts hm)
    have hkey := map_fileOf_of_filePath (F.rows.shape h hg₀.shape hr) hfile
    rw [F.rows.own hm ht hread hkey] at hr
    by_cases hnew : IsNew known parts
    · exact Or.inl (F.added.mpr ⟨parts, hm, hnew, hfree hnew, content, r, hread, hr, hsearch⟩)
    · exact Or.inr (F.updated hm hnew ht hread hr hsearch)

end Progress.Follows

end CodeAtlas
