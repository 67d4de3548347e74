import Mathlib
import CodeAtlas.Proofs.Project.FileRows

/-!
# A file added to a graph

A file is added to a graph in three parts: the directories above it are put where they are missing, the nodes that
belong to it are removed, and its own are put. In a graph whose rows belong to directories and files as those of a
scanned project do, the rows that belong to the file are afterwards the rows of the file, and all others stay as they
were.

## Main definitions

* `Shaped`: rows under keys as a scanned project has them
* `Graph.withFile`: the graph after a file was added

## Main results

* `Graph.bare?_removeFile`, `Graph.Tidy.row_removeFile`: the nodes and rows after the nodes of a file were removed
* `Graph.Tidy.row_of_addFolders`, `Graph.Tidy.row_addFolders_cases`: the rows after missing directories were put
* `Graph.Tidy.addFile_eq`: whether a file can be added
* `Graph.Tidy.row_withFile`: the rows after a file was added
-/

namespace CodeAtlas

open Store

namespace Graph

variable {g : Graph}

/-! ## Removing the nodes of a file -/

/-- Edits that put nothing erase some keys and keep the other nodes. -/
theorem bare?_applyAll_of_no_put {es : List Edit} (hputs : ∀ j n, .put j n ∉ es) (g : Graph) (k : NodeId) :
    (.erase k ∈ es → (g.applyAll es).bare? k = none) ∧ (.erase k ∉ es → (g.applyAll es).bare? k = g.bare? k) := by
  induction es generalizing g with
  | nil => exact ⟨fun hm => (List.not_mem_nil hm).elim, fun _ => rfl⟩
  | cons e es ih =>
    have hes : ∀ j n, .put j n ∉ es := fun j n hm => hputs j n (List.mem_cons_of_mem _ hm)
    obtain ⟨herased, hkept⟩ := ih hes (g.apply e)
    have hstep : (.erase k = e → (g.apply e).bare? k = none) ∧ (.erase k ≠ e → (g.apply e).bare? k = g.bare? k) := by
      cases e with
      | put j n => exact absurd List.mem_cons_self (hputs j n)
      | attach parent child => simp [apply]
      | detach parent child => simp [apply]
      | erase j => simp +contextual [apply, bare?_erase]
    change (_ → ((g.apply e).applyAll es).bare? k = none) ∧ (_ → ((g.apply e).applyAll es).bare? k = g.bare? k)
    rw [List.mem_cons, not_or]
    refine ⟨fun hm => ?_, fun hother => (hkept hother.2).trans (hstep.2 hother.1)⟩
    by_cases hlater : .erase k ∈ es
    · exact herased hlater
    · exact (hkept hlater).trans (hstep.1 (hm.resolve_right hlater))

theorem mem_removeFile {rel : String} {e : Edit} (h : e ∈ g.removeFile rel) :
    (∃ parent child, e = .detach parent child) ∨ ∃ k, e = .erase k := by
  obtain ⟨⟨k, n⟩, -, he⟩ := List.mem_flatMap.mp h
  simp only at he
  split at he
  · simp only [List.mem_cons, List.not_mem_nil, or_false] at he
    exact he.imp (fun h => ⟨_, _, h⟩) fun h => ⟨_, h⟩
  · exact Or.inr ⟨_, List.mem_singleton.mp he⟩

theorem erase_mem_removeFile {rel : String} {k : NodeId} :
    .erase k ∈ g.removeFile rel ↔ ∃ n, (k, n) ∈ g.nodes ∧ (n.filePath = some rel ∨ k = some rel) := by
  simp only [removeFile, keysOfFile, List.mem_flatMap, List.mem_filter, Bool.or_eq_true, beq_iff_eq, Prod.exists]
  constructor
  · rintro ⟨j, n, hm, he⟩
    have hj : k = j := by
      split at he <;> simpa using he
    exact hj ▸ ⟨n, hm⟩
  · rintro ⟨n, hm⟩
    refine ⟨k, n, hm, ?_⟩
    split <;> simp

theorem Tidy.removeFile (h : g.Tidy) (rel : String) : (g.applyAll (g.removeFile rel)).Tidy := by
  refine h.applyAll fun e he => ?_
  rcases mem_removeFile he with ⟨parent, child, rfl⟩ | ⟨k, rfl⟩ <;> trivial

/-- **The nodes after those of a file were removed**: those with its path as file or as key are gone. -/
theorem bare?_removeFile (h : g.keys.Nodup) (rel : String) (k : NodeId) :
    (g.applyAll (g.removeFile rel)).bare? k =
      (g.bare? k).filter fun n => !(n.filePath == some rel || k == some rel) := by
  -- nothing is put, so a node stays unless its key is erased
  have hputs : ∀ j n, .put j n ∉ g.removeFile rel := by
    intro j n hm
    rcases mem_removeFile hm with ⟨parent, child, heq⟩ | ⟨i, heq⟩ <;> cases heq
  obtain ⟨herased, hkept⟩ := bare?_applyAll_of_no_put hputs g k
  cases hn : g.find? k with
  | none =>
    have hnot : .erase k ∉ g.removeFile rel := by
      rw [erase_mem_removeFile]
      rintro ⟨n, hm, -⟩
      cases hn.symm.trans (find?_of_mem h hm)
    rw [hkept hnot, bare?, hn]
    rfl
  | some n =>
    have herase : .erase k ∈ g.removeFile rel ↔ n.filePath = some rel ∨ k = some rel := by
      rw [erase_mem_removeFile]
      constructor
      · rintro ⟨m, hm, hrel⟩
        obtain rfl : n = m := Option.some.inj (hn.symm.trans (find?_of_mem h hm))
        exact hrel
      · exact fun hrel => ⟨n, mem_of_find? hn, hrel⟩
    have hbare : g.bare? k = some n.bare := by
      rw [bare?, hn]
      rfl
    by_cases hrel : n.filePath = some rel ∨ k = some rel
    · rw [herased (herase.mpr hrel), hbare, Option.filter_some,
        if_neg (by simpa [or_iff_not_imp_left] using hrel)]
    · rw [hkept fun he => hrel (herase.mp he), hbare, Option.filter_some, if_pos (by simpa using hrel)]

/-- **The rows after the nodes of a file were removed**: those with its path as file or as key are gone. -/
theorem Tidy.row_removeFile (h : g.Tidy) (rel : String) (k : NodeId) :
    (g.applyAll (g.removeFile rel)).row k =
      (g.row k).filter fun r => !(r.filePath == some rel || k == some rel) := by
  rw [row_eq_bind_bare?, bare?_removeFile h.distinct]
  cases hn : g.find? k with
  | none =>
    rw [row, bare?, hn]
    rfl
  | some n =>
    obtain ⟨r, hr, hok, -, -, hfile⟩ := h.row_of_find? hn
    rw [hr, bare?, hn, Option.map_some, Option.filter_some, Option.filter_some, hfile, Node.bare_filePath]
    split
    · rw [Option.bind_some, Node.ofNode?_bare, hok]
      rfl
    · rfl

/-! ## Putting missing directories -/

theorem here_eq {done : List String} (hdone : ∀ n ∈ done, isFileName n = true) (part : String) :
    (if (relativeText done).isEmpty then part else relativeText done ++ "/" ++ part) =
      relativeText (done ++ [part]) := by
  by_cases hnil : done = []
  · subst hnil
    rw [List.nil_append, relativeText_singleton]
    rfl
  · have hne : (relativeText done).isEmpty = false := by
      rw [Bool.eq_false_iff]
      intro he
      refine hnil ?_
      rw [← components_relativeText hdone, String.isEmpty_iff.mp he]
      rfl
    rw [hne, if_neg Bool.false_ne_true, relativeText_append_singleton hnil]

/-- The directories that are put have no node before. -/
theorem put_mem_addFoldersFrom {todo done : List String} (hdone : ∀ n ∈ done, isPlainName n = true)
    (htodo : ∀ n ∈ todo, isPlainName n = true) {k : NodeId} {n : Node}
    (h : .put k n ∈ g.addFoldersFrom (folderId done) (relativeText done) todo) :
    ∃ q, (∀ x ∈ q, isPlainName x = true) ∧ k = some (relativeText q) ∧ n = folderNode q ∧ g.contains k = false := by
  induction todo generalizing g done with
  | nil => cases h
  | cons part rest ih =>
    obtain ⟨hpart, hrest⟩ := List.forall_mem_cons.mp htodo
    have hhere : ∀ x ∈ done ++ [part], isPlainName x = true :=
      List.forall_mem_append.mpr ⟨hdone, List.forall_mem_singleton.mpr hpart⟩
    have hne : done ++ [part] ≠ [] := by simp
    rw [addFoldersFrom, here_eq (isFileName_of_plain hdone), ← folderId_of_ne_nil hne] at h
    split at h
    · exact ih hhere hrest h
    · next hmissing =>
      rcases List.mem_cons.mp h with heq | h
      · obtain ⟨rfl, rfl⟩ := Edit.put.inj heq
        refine ⟨done ++ [part], hhere, folderId_of_ne_nil hne, ?_, Bool.eq_false_iff.mpr hmissing⟩
        rw [folderNode, List.dropLast_concat, folderId_of_ne_nil hne]
        simp
      rcases List.mem_cons.mp h with heq | h
      · cases heq
      -- a directory further down is missing after this one was put, so it was missing before
      obtain ⟨q, hq, hk, hn, hcontains⟩ := ih hhere hrest h
      refine ⟨q, hq, hk, hn, ?_⟩
      rw [contains, find?_put] at hcontains
      split at hcontains
      · cases hcontains
      · exact hcontains

theorem keeps_of_mem_addFoldersFrom {todo : List String} {parent : NodeId} {above : String} :
    ∀ e ∈ g.addFoldersFrom parent above todo, e.keeps = true := by
  induction todo generalizing g parent above with
  | nil => simp [addFoldersFrom]
  | cons part rest ih =>
    intro e he
    rw [addFoldersFrom] at he
    generalize (if above.isEmpty then part else above ++ "/" ++ part) = here at he
    split at he
    · exact ih e he
    · rcases List.mem_cons.mp he with rfl | he
      · rfl
      rcases List.mem_cons.mp he with rfl | he
      · rfl
      exact ih e he

/-- Afterwards the last of the directories is there. -/
theorem reached_of_addFoldersFrom {todo done : List String} (hdone : ∀ n ∈ done, isFileName n = true)
    (htodo : ∀ n ∈ todo, isFileName n = true) (hthere : g.contains (folderId done) = true) :
    g.contains (folderId (done ++ todo)) = true ∨
      ∃ n, .put (folderId (done ++ todo)) n ∈ g.addFoldersFrom (folderId done) (relativeText done) todo := by
  induction todo generalizing g done with
  | nil => exact Or.inl (by rwa [List.append_nil])
  | cons part rest ih =>
    have hne : done ++ [part] ≠ [] := by simp
    obtain ⟨hpart, hrest⟩ := List.forall_mem_cons.mp htodo
    have hhere : ∀ x ∈ done ++ [part], isFileName x = true :=
      List.forall_mem_append.mpr ⟨hdone, List.forall_mem_singleton.mpr hpart⟩
    rw [addFoldersFrom, here_eq hdone, ← folderId_of_ne_nil hne, List.append_cons done part rest]
    split
    · next hcontains => exact ih hhere hrest hcontains
    · have hput : (g.put (folderId (done ++ [part]))
          (.folder (folderId (done ++ [part])) part (folderId done))).contains (folderId (done ++ [part])) = true := by
        rw [contains, find?_put, if_pos rfl]
        rfl
      rcases ih hhere hrest hput with hcontains | ⟨n, hn⟩
      · rw [contains, find?_put] at hcontains
        split at hcontains
        · -- the last directory is the one that is put here
          next heq =>
          rw [heq]
          exact Or.inr ⟨_, List.mem_cons_self⟩
        · exact Or.inl hcontains
      · exact Or.inr ⟨n, List.mem_cons_of_mem _ (List.mem_cons_of_mem _ hn)⟩

section Folders

variable {parts : List String} (hparts : ∀ n ∈ parts, isPlainName n = true)

include hparts

theorem plain_dropLast : ∀ n ∈ parts.dropLast, isPlainName n = true :=
  fun n hn => hparts n (List.dropLast_subset parts hn)

theorem put_mem_addFolders {k : NodeId} {n : Node} (h : .put k n ∈ g.addFolders (.relative parts)) :
    ∃ q, (∀ x ∈ q, isPlainName x = true) ∧ k = some (relativeText q) ∧ n = folderNode q ∧ g.contains k = false := by
  have hroot : .put k n ∈ g.addFoldersFrom (folderId []) (relativeText []) parts.dropLast := h
  exact put_mem_addFoldersFrom (by simp) (plain_dropLast hparts) hroot

theorem sound_of_mem_addFolders : ∀ e ∈ g.addFolders (.relative parts), e.Sound := by
  intro e he
  cases e with
  | put k n =>
    obtain ⟨q, -, rfl, rfl, -⟩ := put_mem_addFolders hparts he
    exact storable_folder
  | attach parent child => trivial
  | detach parent child => trivial
  | erase key => trivial

theorem Tidy.addFolders (h : g.Tidy) : (g.applyAll (g.addFolders (.relative parts))).Tidy :=
  h.applyAll (sound_of_mem_addFolders hparts)

theorem row_addFolders (k : NodeId) : (g.applyAll (g.addFolders (.relative parts))).row k =
    (Edit.lastRow k (g.addFolders (.relative parts))).or (g.row k) :=
  row_applyAll_of_sound keeps_of_mem_addFoldersFrom (sound_of_mem_addFolders hparts) g k

/-- Rows that are there are kept when missing directories are put. -/
theorem Tidy.row_of_addFolders (h : g.Tidy) {k : NodeId} {r : NodeRow} (hr : g.row k = some r) :
    (g.applyAll (g.addFolders (.relative parts))).row k = some r := by
  rw [row_addFolders hparts]
  cases hlast : Edit.lastRow k (g.addFolders (.relative parts)) with
  | none => rw [Option.none_or, hr]
  | some r' =>
    obtain ⟨n, hn, -⟩ := Edit.lastRow_eq_some hlast
    obtain ⟨q, -, -, -, hmissing⟩ := put_mem_addFolders hparts hn
    rw [h.contains_eq, hr] at hmissing
    cases hmissing

/-- A row that is not kept is the row of a directory that was missing. -/
theorem Tidy.row_addFolders_cases (h : g.Tidy) {k : NodeId} {r : NodeRow}
    (hr : (g.applyAll (g.addFolders (.relative parts))).row k = some r) :
    g.row k = some r ∨ g.row k = none ∧ IsFolderRow k r := by
  rw [row_addFolders hparts, Option.or_eq_some_iff] at hr
  rcases hr with hr | ⟨-, hr⟩
  · obtain ⟨n, hn, hok⟩ := Edit.lastRow_eq_some hr
    obtain ⟨q, hq, rfl, rfl, hmissing⟩ := put_mem_addFolders hparts hn
    rw [h.contains_eq, Option.isSome_eq_false_iff, Option.isNone_iff_eq_none] at hmissing
    exact Or.inr ⟨hmissing, isFolderRow_of_ofNode? (fileOf_relativeText hq) hok⟩
  · exact Or.inl hr

theorem Tidy.row_addFolders_above (h : g.Tidy) (hroot : (g.row rootKey).isSome = true) :
    ((g.applyAll (g.addFolders (.relative parts))).row (folderId parts.dropLast)).isSome = true := by
  have hthere : g.contains (folderId []) = true := by rwa [folderId_nil, h.contains_eq]
  have hreached := reached_of_addFoldersFrom (by simp) (isFileName_of_plain (plain_dropLast hparts)) hthere
  rw [List.nil_append] at hreached
  rcases hreached with hcontains | ⟨n, hn⟩
  · rw [h.contains_eq] at hcontains
    obtain ⟨r, hr⟩ := Option.isSome_iff_exists.mp hcontains
    rw [h.row_of_addFolders hparts hr]
    rfl
  · rw [row_addFolders hparts, Option.isSome_or, Bool.or_eq_true]
    exact Or.inl (Edit.lastRow_isSome_of_mem (sound_of_mem_addFolders hparts) hn)

end Folders

end Graph

/-! ## To whom rows belong -/

/-- A row of a file or of one of its declarations, under a key that belongs to the file. -/
def IsRowOfFile (k : NodeId) (r : NodeRow) : Prop :=
  r.id = k ∧ k.isSome = true ∧ r.filePath = k.map fileOf ∧ (r.kind = Node.fileKind ↔ k.map fileOf = k)

/-- Rows under keys as a scanned project has them: a root, directories, files, and declarations of files. -/
structure Shaped (rows : NodeId → Option NodeRow) : Prop where
  shape : ∀ {k r}, rows k = some r → IsFolderRow k r ∨ IsRowOfFile k r
  root : (rows Graph.rootKey).isSome = true
  file : ∀ {k r path}, rows k = some r → r.filePath = some path →
    ∃ r', rows (some path) = some r' ∧ r'.kind = Node.fileKind

/-- A row of a shaped table with a path stands under a key that belongs to the path. -/
theorem map_fileOf_of_filePath {k : NodeId} {r : NodeRow} {path : String} (h : IsFolderRow k r ∨ IsRowOfFile k r)
    (hfile : r.filePath = some path) : k.map fileOf = some path := by
  rcases h with ⟨-, hnone, -⟩ | ⟨-, -, hpath, -⟩
  · cases hnone.symm.trans hfile
  · exact hpath.symm.trans hfile

theorem folderId_map_fileOf {parts : List String} (h : ∀ n ∈ parts, isPlainName n = true) :
    (folderId parts).map fileOf = folderId parts := by
  by_cases hnil : parts = []
  · subst hnil
    decide +kernel
  · rw [folderId_of_ne_nil hnil, Option.map_some, fileOf_relativeText h]

/-- A directory above a file does not have the key of the file. -/
theorem folderId_dropLast_ne {parts : List String} (hne : parts ≠ []) (h : ∀ n ∈ parts, isPlainName n = true) :
    folderId parts.dropLast ≠ some (relativeText parts) := by
  intro heq
  by_cases hnil : parts.dropLast = []
  · rw [hnil, folderId_nil] at heq
    exact relativeText_ne_dot (isFileName_of_plain h) (Option.some.inj heq).symm
  · rw [folderId_of_ne_nil hnil] at heq
    have hdrop := relativeText_inj (isFileName_of_plain (Graph.plain_dropLast h)) (isFileName_of_plain h)
      (Option.some.inj heq)
    have hlength := congrArg List.length hdrop
    rw [List.length_dropLast] at hlength
    exact hne (List.length_eq_zero_iff.mp (by omega))

theorem IsRowOfFile.of_fileRow {s : Source} {parts : List String} {content : ByteArray}
    (hparts : ∀ n ∈ parts, isPlainName n = true) {k : NodeId} {r : NodeRow}
    (h : s.fileRow parts content k = some r) : IsRowOfFile k r := by
  obtain ⟨hk, hid, hfile, hkind⟩ := Source.fileRow_eq_some hparts h
  refine ⟨hid, ?_, hfile.trans hk.symm, ?_⟩
  · cases k with
    | none => cases hk
    | some id => rfl
  · rw [hkind, hk, eq_comm]

/-! ## Adding a file -/

namespace Graph

variable {g : Graph} {s : Source} {disk : Entry} {parts : List String} {content : ByteArray}

/-- The graph with the nodes of a file removed and those of the file with some content put. -/
def withFile (g : Graph) (s : Source) (parts : List String) (content : ByteArray) : Graph :=
  g.applyAll (g.removeFile (relativeText parts) ++ s.fileEdits parts content)

theorem withFile_eq (g : Graph) (s : Source) (parts : List String) (content : ByteArray) :
    g.withFile s parts content =
      (g.applyAll (g.removeFile (relativeText parts))).applyAll (s.fileEdits parts content) :=
  List.foldl_append

theorem Tidy.withFile (h : g.Tidy) (hfits : s.fits parts content = true) : (g.withFile s parts content).Tidy := by
  rw [withFile_eq]
  exact (h.removeFile _).applyAll (Source.sound_of_mem_fileEdits hfits)

/-- **The rows after a file was added**: what belongs to the file is as the file has it, and all else as before. -/
theorem Tidy.row_withFile (h : g.Tidy) (hshape : ∀ {k r}, g.row k = some r → IsFolderRow k r ∨ IsRowOfFile k r)
    (hparts : ∀ n ∈ parts, isPlainName n = true) (hfits : s.fits parts content = true) (k : NodeId) :
    (g.withFile s parts content).row k =
      if k.map fileOf = some (relativeText parts) then s.fileRow parts content k else g.row k := by
  rw [withFile_eq, row_applyAll_of_sound Source.keeps_of_mem_fileEdits (Source.sound_of_mem_fileEdits hfits),
    h.row_removeFile]
  change (s.fileRow parts content k).or _ = _
  by_cases hk : k.map fileOf = some (relativeText parts)
  · -- a row under a key of the file was removed, whether it was one of the file or of a directory
    have hgone : (g.row k).filter
        (fun r => !(r.filePath == some (relativeText parts) || k == some (relativeText parts))) = none := by
      cases hr : g.row k with
      | none => rfl
      | some r =>
        rcases hshape hr with ⟨-, -, -, hkey⟩ | ⟨-, -, hfile, -⟩
        · simp [hkey.symm.trans hk]
        · simp [hfile.trans hk]
    rw [if_pos hk, hgone, Option.or_none]
  · have hrow : s.fileRow parts content k = none := by
      rw [Option.eq_none_iff_forall_not_mem]
      exact fun r hr => hk (Source.fileRow_eq_some hparts hr).1
    have hkey : k ≠ some (relativeText parts) := by
      rintro rfl
      exact hk (by rw [Option.map_some, fileOf_relativeText hparts])
    rw [if_neg hk, hrow, Option.none_or]
    cases hr : g.row k with
    | none => rfl
    | some r =>
      have hfile : r.filePath ≠ some (relativeText parts) := by
        rcases hshape hr with ⟨-, hnone, -, -⟩ | ⟨-, -, hfile, -⟩
        · simp [hnone]
        · rwa [hfile]
      simp [hkey, hfile]

/-- **Whether a file can be added**: the directory above it has to be there. -/
theorem Tidy.addFile_eq (h : g.Tidy) (hshape : ∀ {k r}, g.row k = some r → IsFolderRow k r ∨ IsRowOfFile k r)
    (hne : parts ≠ []) (hparts : ∀ n ∈ parts, isPlainName n = true)
    (hl : (Language.forPath? (s.absolute parts)).isSome = true) (hread : disk.readFile s.asUser parts = some content) :
    ∃ part, g.addFile s disk parts (s.absolute parts) (relativeText parts) (folderId parts.dropLast) =
      if (g.row (folderId parts.dropLast)).isSome then
        .ofList (g.removeFile (relativeText parts) ++ s.fileEdits parts content)
      else ⟨part, some (.missingNode (folderId parts.dropLast))⟩ := by
  -- the directory above the file is not removed with the file
  have habove : (g.applyAll (g.removeFile (relativeText parts))).contains (folderId parts.dropLast) =
      (g.row (folderId parts.dropLast)).isSome := by
    rw [(h.removeFile _).contains_eq, h.row_removeFile]
    cases hr : g.row (folderId parts.dropLast) with
    | none => rfl
    | some r =>
      have hkey := folderId_dropLast_ne hne hparts
      have hfile : r.filePath ≠ some (relativeText parts) := by
        rcases hshape hr with ⟨-, hnone, -, -⟩ | ⟨-, -, hfile, -⟩
        · simp [hnone]
        · rwa [hfile, folderId_map_fileOf (plain_dropLast hparts)]
      simp [hkey, hfile]
  have hself : (folderId parts.dropLast == some (relativeText parts)) = false :=
    beq_eq_false_iff_ne.mpr (folderId_dropLast_ne hne hparts)
  obtain ⟨l, hl⟩ := Option.isSome_iff_exists.mp hl
  have hedits : s.fileEdits parts content = fileEdits (s.absolute parts) (relativeText parts)
      (folderId parts.dropLast) l (l.outline s.read (s.absolute parts) (some content)) := by
    unfold Source.fileEdits
    rw [hl]
  unfold addFile
  rw [hl, hread, hedits]
  simp only [habove, hself, Bool.or_false]
  exact ⟨_, rfl⟩

end Graph

end CodeAtlas
