import Mathlib
import CodeAtlas.Proofs.Graph.Rows
import CodeAtlas.Proofs.Language.Names
import CodeAtlas.Proofs.Project.Scan

/-!
# The rows of a source file and of a scanned project

A source file brings the row of the file and the rows of its declarations. Their keys belong to the file, so in a
project without colons in its names no two files bring rows under one key, and no file brings a row under the key of a
directory. The rows of a scanned project are therefore those of its source files, of its directories and of its root.

## Main definitions

* `Edit.lastRow`: the row that some edits leave under a key
* `Source.fileRow`: the row that a file with some content brings under a key
* `Indexable`: projects whose names have no colons and whose line numbers can be stored

## Main results

* `Source.fileRow_eq_some`: what the rows of a file look like
* `Indexable.tidy_built`: a scanned project can be stored
* `Indexable.row_built_of_file`, `Indexable.row_built_cases`: the rows of a scanned project
-/

namespace CodeAtlas

open Store

/-! ## Rows that edits leave -/

/-- The row that some edits leave under a key, if they put one there. -/
def Edit.lastRow (key : NodeId) (es : List Edit) : Option NodeRow :=
  (lastPut key es).bind fun n => (NodeRow.ofNode? n).toOption

theorem Edit.lastRow_eq_some {key : NodeId} {es : List Edit} {r : NodeRow} (h : lastRow key es = some r) :
    ∃ n, .put key n ∈ es ∧ NodeRow.ofNode? n = .ok r := by
  obtain ⟨n, hn, hr⟩ := Option.bind_eq_some_iff.mp h
  refine ⟨n, mem_of_lastPut hn, ?_⟩
  cases hok : NodeRow.ofNode? n with
  | ok r' =>
    rw [hok] at hr
    exact congrArg Except.ok (Option.some.inj hr)
  | error f =>
    rw [hok] at hr
    cases hr

theorem Edit.lastRow_isSome_of_mem {key : NodeId} {es : List Edit} {n : Node} (hsound : ∀ e ∈ es, e.Sound)
    (h : .put key n ∈ es) : (lastRow key es).isSome = true := by
  obtain ⟨m, hm⟩ := Option.isSome_iff_exists.mp (lastPut_isSome_of_mem h)
  obtain ⟨-, -, r, hr, -⟩ := hsound _ (mem_of_lastPut hm)
  rw [lastRow, hm, Option.bind_some, hr]
  rfl

/-- The rows after edits that put storable nodes and erase nothing. -/
theorem Graph.row_applyAll_of_sound {es : List Edit} (hkeeps : ∀ e ∈ es, e.keeps = true) (hsound : ∀ e ∈ es, e.Sound)
    (g : Graph) (k : NodeId) : (g.applyAll es).row k = (Edit.lastRow k es).or (g.row k) := by
  rw [row_applyAll hkeeps, Edit.lastRow]
  cases hput : Edit.lastPut k es with
  | none => rfl
  | some n =>
    obtain ⟨-, -, r, hr, -⟩ := hsound _ (Edit.mem_of_lastPut hput)
    change (NodeRow.ofNode? n).toOption = _
    rw [Option.bind_some, hr]
    rfl

/-! ## The rows of a file -/

/-- Whether the numbers of an outline can be stored. -/
def Outline.fits (o : Outline) : Bool :=
  fits64 (o.lines.getD 0 : Nat) && o.entities.all fun e => fits64 e.firstLine && fits64 e.lastLine

/-- Whether the line numbers of a file with some content can be stored. -/
def Source.fits (s : Source) (parts : List String) (content : ByteArray) : Bool :=
  match Language.forPath? (s.absolute parts) with
  | some l => (l.outline s.read (s.absolute parts) (some content)).fits
  | none => true

namespace Source

variable {s : Source} {parts : List String} {content : ByteArray}

theorem keeps_of_mem_fileEdits : ∀ e ∈ s.fileEdits parts content, e.keeps = true := by
  intro e he
  unfold fileEdits at he
  split at he
  · rcases List.mem_cons.mp he with rfl | he
    · rfl
    rcases List.mem_cons.mp he with rfl | he
    · rfl
    obtain ⟨entity, -, he⟩ := List.mem_flatMap.mp he
    simp only [entityEdits, List.mem_cons, List.not_mem_nil, or_false] at he
    rcases he with rfl | rfl <;> rfl
  · cases he

/-- The nodes that a file puts: its own, and those of its declarations. -/
theorem put_mem_fileEdits {k : NodeId} {n : Node} (h : .put k n ∈ s.fileEdits parts content) :
    ∃ l, Language.forPath? (s.absolute parts) = some l ∧
      (k = some (relativeText parts) ∧
          n = fileNode (s.absolute parts) (relativeText parts) (folderId parts.dropLast) l
            (l.outline s.read (s.absolute parts) (some content)) ∨
        ∃ e ∈ (l.outline s.read (s.absolute parts) (some content)).entities,
          k = some (entityNodeId (relativeText parts) e) ∧ n = entityNode (relativeText parts) e) := by
  unfold fileEdits at h
  split at h
  · next l hl =>
    refine ⟨l, hl, ?_⟩
    rcases List.mem_cons.mp h with heq | h
    · obtain ⟨rfl, rfl⟩ := Edit.put.inj heq
      exact Or.inl ⟨rfl, rfl⟩
    rcases List.mem_cons.mp h with heq | h
    · cases heq
    obtain ⟨e, he, h⟩ := List.mem_flatMap.mp h
    simp only [entityEdits, List.mem_cons, List.not_mem_nil, or_false, reduceCtorEq] at h
    obtain ⟨rfl, rfl⟩ := Edit.put.inj h
    exact Or.inr ⟨e, he, rfl, rfl⟩
  · cases h

theorem storable_fileNode {file : Path} {rel : String} {parent : NodeId} {l : Language} {o : Outline}
    (h : o.fits = true) : (fileNode file rel parent l o).Storable (some rel) := by
  have hlines : fits64 (o.lines.getD 0 : Nat) = true := (Bool.and_eq_true_iff.mp h).1
  exact Node.storable_of_fields rfl rfl hlines rfl rfl List.not_mem_nil List.not_mem_nil

theorem storable_entityNode {rel : String} {o : Outline} (h : o.fits = true) {e : Entity} (he : e ∈ o.entities)
    (hproper : e.Proper) : (entityNode rel e).Storable (some (entityNodeId rel e)) := by
  have hlines := List.all_eq_true.mp (Bool.and_eq_true_iff.mp h).2 e he
  obtain ⟨hfirst, hlast⟩ := Bool.and_eq_true_iff.mp hlines
  exact Node.storable_of_fields rfl hfirst hlast rfl rfl hproper.1 hproper.2

theorem fits_eq {l : Language} (hl : Language.forPath? (s.absolute parts) = some l) :
    s.fits parts content = (l.outline s.read (s.absolute parts) (some content)).fits := by
  unfold fits
  rw [hl]

theorem sound_of_mem_fileEdits (h : s.fits parts content = true) : ∀ e ∈ s.fileEdits parts content, e.Sound := by
  intro e he
  cases e with
  | put k n =>
    obtain ⟨l, hl, hn⟩ := put_mem_fileEdits he
    rw [fits_eq hl] at h
    rcases hn with ⟨rfl, rfl⟩ | ⟨entity, hentity, rfl, rfl⟩
    · exact storable_fileNode h
    · exact storable_entityNode h hentity (Language.proper_of_mem_outline hl _ _ entity hentity)
  | attach parent child => trivial
  | detach parent child => trivial
  | erase key => trivial

/-- The row that a file with some content brings under a key. -/
def fileRow (s : Source) (parts : List String) (content : ByteArray) (k : NodeId) : Option NodeRow :=
  Edit.lastRow k (s.fileEdits parts content)

theorem label_ne_fileKind (kind : EntityKind) : kind.label ≠ Node.fileKind := by
  cases kind <;> decide

/-- **The rows of a file**: their keys belong to the file, and the row under the path is the one of the file. -/
theorem fileRow_eq_some (hparts : ∀ n ∈ parts, isPlainName n = true) {k : NodeId} {r : NodeRow}
    (h : s.fileRow parts content k = some r) :
    k.map fileOf = some (relativeText parts) ∧ r.id = k ∧ r.filePath = some (relativeText parts) ∧
      (r.kind = Node.fileKind ↔ k = some (relativeText parts)) := by
  obtain ⟨n, hn, hr⟩ := Edit.lastRow_eq_some h
  have hid := NodeRow.id_of_ofNode? hr
  have hfile := NodeRow.filePath_of_ofNode? hr
  have hkind := NodeRow.kind_of_ofNode? hr
  obtain ⟨l, -, ⟨rfl, rfl⟩ | ⟨e, -, rfl, rfl⟩⟩ := put_mem_fileEdits hn
  · refine ⟨?_, hid, hfile, fun _ => rfl, fun _ => (Option.some.inj hkind).symm⟩
    rw [Option.map_some, fileOf_relativeText hparts]
  · refine ⟨?_, hid, hfile, fun hk => ?_, fun hk => ?_⟩
    · rw [Option.map_some, fileOf_entityNodeId (colon_not_mem_relativeText hparts)]
    · exact absurd ((Option.some.inj hkind).trans hk) (label_ne_fileKind e.kind)
    · exact absurd (Option.some.inj hk) (entityNodeId_ne _ e)

/-- A file of a known language has a row under its path. -/
theorem fileRow_self (hl : (Language.forPath? (s.absolute parts)).isSome = true) (h : s.fits parts content = true) :
    (s.fileRow parts content (some (relativeText parts))).isSome = true := by
  obtain ⟨l, hl⟩ := Option.isSome_iff_exists.mp hl
  have hn : .put (some (relativeText parts)) (fileNode (s.absolute parts) (relativeText parts) (folderId parts.dropLast)
      l (l.outline s.read (s.absolute parts) (some content))) ∈ s.fileEdits parts content := by
    unfold fileEdits
    rw [hl]
    exact List.mem_cons_self
  exact Edit.lastRow_isSome_of_mem (sound_of_mem_fileEdits h) hn

end Source

/-! ## Directories -/

theorem storable_folder {key name : String} {parent : NodeId} :
    (Node.folder (some key) name parent).Storable (some key) :=
  Node.storable_of_fields rfl rfl rfl rfl rfl List.not_mem_nil List.not_mem_nil

/-- A row of a directory under a key that belongs to no declaration. -/
def IsFolderRow (k : NodeId) (r : NodeRow) : Prop :=
  r.id = k ∧ r.filePath = none ∧ r.kind = Node.folderKind ∧ k.map fileOf = k

theorem isFolderRow_of_ofNode? {key name : String} {parent : NodeId} (hkey : fileOf key = key) {r : NodeRow}
    (h : NodeRow.ofNode? (.folder (some key) name parent) = .ok r) : IsFolderRow (some key) r := by
  refine ⟨NodeRow.id_of_ofNode? h, NodeRow.filePath_of_ofNode? h, ?_, ?_⟩
  · exact (Option.some.inj (NodeRow.kind_of_ofNode? h)).symm
  · rw [Option.map_some, hkey]

/-! ## Scanned projects -/

/-- A project that can be indexed: it may be read, its names have no colons and differ within each directory, and the
line numbers of its source files can be stored. -/
structure Indexable (s : Source) (disk : Entry) : Prop where
  readable : s.asUser = false
  named : disk.named isPlainName = true
  fits : ∀ parts ∈ sourceFiles disk, ∀ content, disk.readFile false parts = some content → s.fits parts content = true

instance (s : Source) (disk : Entry) : Decidable (Indexable s disk) :=
  decidable_of_iff (s.asUser = false ∧ disk.named isPlainName = true ∧
      ∀ parts ∈ sourceFiles disk, ∀ content ∈ disk.readFile false parts, s.fits parts content = true)
    ⟨fun ⟨hreadable, hnamed, hfits⟩ => ⟨hreadable, hnamed, hfits⟩, fun h => ⟨h.readable, h.named, h.fits⟩⟩

/-- The graph of a scanned project. -/
def Source.built (s : Source) (disk : Entry) : Graph :=
  Graph.empty.applyAll (buildEdits s [] disk).list

namespace Indexable

variable {s : Source} {disk : Entry}

theorem plain_of_mem_places (h : Indexable s disk) {parts : List String} {e : Entry} (hm : (parts, e) ∈ disk.places) :
    parts ≠ [] ∧ ∀ n ∈ parts, isPlainName n = true :=
  names_of_mem_places (by decide) h.named hm

theorem plain (h : Indexable s disk) {parts : List String} (hm : parts ∈ sourceFiles disk) :
    parts ≠ [] ∧ ∀ n ∈ parts, isPlainName n = true := by
  obtain ⟨⟨content, locked, hplace⟩, -⟩ := mem_sourceFiles.mp hm
  exact h.plain_of_mem_places hplace

theorem content (h : Indexable s disk) {parts : List String} (hm : parts ∈ sourceFiles disk) :
    ∃ content, disk.readFile false parts = some content ∧ fileDigest? disk parts = some (Digest.sha256 content) ∧
      s.fits parts content = true := by
  obtain ⟨content, hread, hdigest⟩ := fileDigest?_of_mem_sourceFiles (by decide) h.named hm
  exact ⟨content, hread, hdigest, h.fits parts hm content hread⟩

theorem relativeText_inj (h : Indexable s disk) {parts parts' : List String} {e e' : Entry}
    (hm : (parts, e) ∈ disk.places) (hm' : (parts', e') ∈ disk.places)
    (heq : relativeText parts = relativeText parts') : parts = parts' :=
  CodeAtlas.relativeText_inj (isFileName_of_plain (h.plain_of_mem_places hm).2)
    (isFileName_of_plain (h.plain_of_mem_places hm').2) heq

theorem parts_inj (h : Indexable s disk) {parts parts' : List String} (hm : parts ∈ sourceFiles disk)
    (hm' : parts' ∈ sourceFiles disk) (heq : relativeText parts = relativeText parts') : parts = parts' :=
  CodeAtlas.relativeText_inj (isFileName_of_plain (h.plain hm).2) (isFileName_of_plain (h.plain hm').2) heq

theorem map_fileOf_self (h : Indexable s disk) {parts : List String} (hm : parts ∈ sourceFiles disk) :
    (some (relativeText parts)).map fileOf = some (relativeText parts) := by
  rw [Option.map_some, fileOf_relativeText (h.plain hm).2]

/-- The languages of source files are known. -/
theorem forPath?_isSome (h : Indexable s disk) {parts : List String} (hm : parts ∈ sourceFiles disk) :
    (Language.forPath? (s.absolute parts)).isSome = true := by
  rw [forPath?_absolute s (h.plain hm).1]
  exact (mem_sourceFiles.mp hm).2.1

/-- The row of a source file. -/
theorem fileRow_self (h : Indexable s disk) {parts : List String} (hm : parts ∈ sourceFiles disk)
    {content : ByteArray} (hread : disk.readFile false parts = some content) :
    ∃ r, s.fileRow parts content (some (relativeText parts)) = some r ∧ r.kind = Node.fileKind := by
  obtain ⟨r, hr⟩ := Option.isSome_iff_exists.mp
    (Source.fileRow_self (h.forPath?_isSome hm) (h.fits parts hm content hread))
  exact ⟨r, hr, (Source.fileRow_eq_some (h.plain hm).2 hr).2.2.2.mpr rfl⟩

/-- A key of a source file under which it has no row is that of a declaration. -/
theorem map_fileOf_ne_of_fileRow (h : Indexable s disk) {parts : List String} (hm : parts ∈ sourceFiles disk)
    {content : ByteArray} (hread : disk.readFile false parts = some content) {k : NodeId}
    (hk : k.map fileOf = some (relativeText parts)) (hnone : s.fileRow parts content k = none) :
    k.map fileOf ≠ k := by
  intro hkey
  obtain ⟨r, hr, -⟩ := h.fileRow_self hm hread
  rw [← hk, hkey, hnone] at hr
  cases hr

/-- A scanned file of a known language is a source file. -/
theorem mem_sourceFiles_of_scanned (h : Indexable s disk) {parts : List String} {content : ByteArray} {locked : Bool}
    (hm : (parts, .file content locked) ∈ disk.places) (hscanned : isScanned (parts, .file content locked) = true)
    (hl : (Language.forPath? (s.absolute parts)).isSome = true) : parts ∈ sourceFiles disk := by
  rw [forPath?_absolute s (h.plain_of_mem_places hm).1] at hl
  exact mem_sourceFiles.mpr ⟨⟨content, locked, hm⟩, hl, by simpa [isScanned] using hscanned⟩

/-- The keys under which a place puts nodes belong to the place. -/
theorem fileOf_of_put_mem_placeEdits (h : Indexable s disk) {place : List String × Entry} (hm : place ∈ disk.places)
    {k : NodeId} {n : Node} (hput : .put k n ∈ s.placeEdits place) : k.map fileOf = some (relativeText place.1) := by
  obtain ⟨parts, e⟩ := place
  obtain ⟨-, hplain⟩ := h.plain_of_mem_places hm
  cases e with
  | file content locked =>
    rw [Source.placeEdits_file] at hput
    obtain ⟨l, -, ⟨rfl, -⟩ | ⟨e, -, rfl, -⟩⟩ := Source.put_mem_fileEdits hput
    · rw [Option.map_some, fileOf_relativeText hplain]
    · rw [Option.map_some, fileOf_entityNodeId (colon_not_mem_relativeText hplain)]
  | folder items locked =>
    simp only [Source.placeEdits_folder, folderEdits, List.mem_cons, List.not_mem_nil, or_false, reduceCtorEq] at hput
    obtain ⟨rfl, -⟩ := Edit.put.inj hput
    rw [Option.map_some, fileOf_relativeText hplain]

theorem sound_of_mem_placeEdits (h : Indexable s disk) {place : List String × Entry} (hm : place ∈ disk.places)
    (hscanned : isScanned place = true) : ∀ e ∈ s.placeEdits place, e.Sound := by
  obtain ⟨parts, e⟩ := place
  cases e with
  | file content locked =>
    rw [Source.placeEdits_file]
    intro e he
    cases e with
    | put k n =>
      obtain ⟨l, hl, -⟩ := Source.put_mem_fileEdits he
      have hsource := h.mem_sourceFiles_of_scanned hm hscanned (by rw [hl]; rfl)
      have hread := readFile_of_mem_places (by decide) h.named hm
      exact Source.sound_of_mem_fileEdits (h.fits parts hsource content hread) _ he
    | attach parent child => trivial
    | detach parent child => trivial
    | erase key => trivial
  | folder items locked =>
    intro e he
    simp only [Source.placeEdits_folder, folderEdits, List.mem_cons, List.not_mem_nil, or_false] at he
    rcases he with rfl | rfl
    · exact storable_folder
    · trivial

theorem keeps_of_mem_placeEdits (place : List String × Entry) : ∀ e ∈ s.placeEdits place, e.keeps = true := by
  obtain ⟨parts, e⟩ := place
  cases e with
  | file content locked =>
    rw [Source.placeEdits_file]
    exact Source.keeps_of_mem_fileEdits
  | folder items locked =>
    intro e he
    simp only [Source.placeEdits_folder, folderEdits, List.mem_cons, List.not_mem_nil, or_false] at he
    rcases he with rfl | rfl <;> rfl

theorem readable_disk (h : Indexable s disk) : disk.readable s.asUser = true := by
  rw [h.readable, disk.readable_false]

/-- The blocks of a scanned project, one after the other. -/
theorem list_buildEdits (h : Indexable s disk) :
    (buildEdits s [] disk).list = s.rootEdits ++ (disk.places.filter isScanned).flatMap s.placeEdits := by
  rw [buildEdits_eq h.readable_disk]
  rfl

theorem mem_list_buildEdits (h : Indexable s disk) {e : Edit} (he : e ∈ (buildEdits s [] disk).list) :
    e ∈ s.rootEdits ∨ ∃ place ∈ disk.places, isScanned place = true ∧ e ∈ s.placeEdits place := by
  rw [h.list_buildEdits, List.mem_append] at he
  refine he.imp_right fun he => ?_
  obtain ⟨place, hplace, he⟩ := List.mem_flatMap.mp he
  obtain ⟨hm, hscanned⟩ := List.mem_filter.mp hplace
  exact ⟨place, hm, hscanned, he⟩

theorem sound_of_mem_buildEdits (h : Indexable s disk) : ∀ e ∈ (buildEdits s [] disk).list, e.Sound := by
  intro e he
  rcases h.mem_list_buildEdits he with he | ⟨place, hm, hscanned, he⟩
  · rw [List.mem_singleton.mp he]
    exact storable_folder
  · exact h.sound_of_mem_placeEdits hm hscanned e he

theorem keeps_of_mem_buildEdits (h : Indexable s disk) : ∀ e ∈ (buildEdits s [] disk).list, e.keeps = true := by
  intro e he
  rcases h.mem_list_buildEdits he with he | ⟨place, -, -, he⟩
  · rw [List.mem_singleton.mp he]
    rfl
  · exact keeps_of_mem_placeEdits place e he

/-- **A scanned project can be stored.** -/
theorem tidy_built (h : Indexable s disk) : (s.built disk).Tidy :=
  Graph.tidy_empty.applyAll h.sound_of_mem_buildEdits

theorem row_built (h : Indexable s disk) (k : NodeId) :
    (s.built disk).row k = Edit.lastRow k (buildEdits s [] disk).list := by
  rw [Source.built, Graph.row_applyAll_of_sound h.keeps_of_mem_buildEdits h.sound_of_mem_buildEdits, Graph.row_empty,
    Option.or_none]

/-- **The rows that belong to a source file are the rows of the file.** -/
theorem row_built_of_file (h : Indexable s disk) {parts : List String} (hm : parts ∈ sourceFiles disk)
    {content : ByteArray} (hread : disk.readFile false parts = some content) {k : NodeId}
    (hk : k.map fileOf = some (relativeText parts)) : (s.built disk).row k = s.fileRow parts content k := by
  obtain ⟨⟨content', locked, hplace⟩, -, hexcluded⟩ := mem_sourceFiles.mp hm
  have hread' := readFile_of_mem_places (by decide) h.named hplace
  obtain rfl : content' = content := Option.some.inj (hread'.symm.trans hread)
  have hscanned : isScanned (parts, .file content' locked) = true := by
    rw [isScanned, hexcluded, Bool.not_false]
  -- the root has a key that no file has
  have hroot : Edit.lastPut k s.rootEdits = none := by
    rw [Option.eq_none_iff_forall_not_mem]
    intro n hn
    obtain ⟨rfl, -⟩ := Edit.put.inj (List.mem_singleton.mp (Edit.mem_of_lastPut hn))
    exact relativeText_ne_dot (isFileName_of_plain (h.plain hm).2) (Option.some.inj hk).symm
  -- the blocks of other places put nothing under a key of this file
  have hblock : Edit.lastPut k ((disk.places.filter isScanned).flatMap s.placeEdits) =
      Edit.lastPut k (s.placeEdits (parts, .file content' locked)) := by
    refine Edit.lastPut_flatMap (List.mem_filter.mpr ⟨hplace, hscanned⟩) fun place hp hsome => ?_
    obtain ⟨n, hn⟩ := Option.isSome_iff_exists.mp hsome
    obtain ⟨q, e⟩ := place
    have hmem := (List.mem_filter.mp hp).1
    have hq := h.fileOf_of_put_mem_placeEdits hmem (Edit.mem_of_lastPut hn)
    obtain rfl := h.relativeText_inj hmem hplace (Option.some.inj (hq.symm.trans hk))
    rw [place_unique (by decide) h.named hmem hplace]
  rw [h.row_built, Source.fileRow, Edit.lastRow, Edit.lastRow, h.list_buildEdits, Edit.lastPut_append, hblock, hroot,
    Option.or_none, Source.placeEdits_file]

/-- Any other row is the row of a directory. -/
theorem row_built_cases (h : Indexable s disk) {k : NodeId} {r : NodeRow} (hr : (s.built disk).row k = some r) :
    (∃ parts ∈ sourceFiles disk, k.map fileOf = some (relativeText parts)) ∨ IsFolderRow k r := by
  rw [h.row_built] at hr
  obtain ⟨n, hn, hok⟩ := Edit.lastRow_eq_some hr
  rcases h.mem_list_buildEdits hn with hn | ⟨⟨parts, e⟩, hm, hscanned, hn⟩
  · obtain ⟨rfl, rfl⟩ := Edit.put.inj (List.mem_singleton.mp hn)
    exact Or.inr (isFolderRow_of_ofNode? (by decide +kernel) hok)
  · have hk := h.fileOf_of_put_mem_placeEdits hm hn
    cases e with
    | file content locked =>
      rw [Source.placeEdits_file] at hn
      obtain ⟨l, hl, -⟩ := Source.put_mem_fileEdits hn
      exact Or.inl ⟨parts, h.mem_sourceFiles_of_scanned hm hscanned (by rw [hl]; rfl), hk⟩
    | folder items locked =>
      simp only [Source.placeEdits_folder, folderEdits, List.mem_cons, List.not_mem_nil, or_false, reduceCtorEq] at hn
      obtain ⟨rfl, rfl⟩ := Edit.put.inj hn
      exact Or.inr (isFolderRow_of_ofNode? (fileOf_relativeText (h.plain_of_mem_places hm).2) hok)

theorem row_built_root (h : Indexable s disk) : ((s.built disk).row Graph.rootKey).isSome = true := by
  rw [h.row_built]
  refine Edit.lastRow_isSome_of_mem (n := .folder Graph.rootKey s.path.name none) h.sound_of_mem_buildEdits ?_
  rw [h.list_buildEdits]
  exact List.mem_append_left _ List.mem_cons_self

/-- The directory above a source file has a row. -/
theorem row_built_above (h : Indexable s disk) {parts : List String} (hm : parts ∈ sourceFiles disk) :
    ((s.built disk).row (folderId parts.dropLast)).isSome = true := by
  obtain ⟨⟨content, locked, hplace⟩, -, hexcluded⟩ := mem_sourceFiles.mp hm
  rcases folder_above_of_mem_places hplace with hnil | ⟨items, locked', hfolder⟩
  · rw [hnil, folderId_nil]
    exact h.row_built_root
  · have hscanned : isScanned (parts.dropLast, .folder items locked') = true := by
      rw [isScanned, Bool.not_eq_true', List.any_eq_false]
      exact fun n hn => List.any_eq_false.mp hexcluded n (List.dropLast_subset parts hn)
    rw [h.row_built, folderId_of_ne_nil (h.plain_of_mem_places hfolder).1]
    refine Edit.lastRow_isSome_of_mem (n := folderNode parts.dropLast) h.sound_of_mem_buildEdits ?_
    rw [h.list_buildEdits]
    refine List.mem_append_right _ (List.mem_flatMap.mpr ⟨_, List.mem_filter.mpr ⟨hfolder, hscanned⟩, ?_⟩)
    rw [Source.placeEdits_folder]
    exact List.mem_cons_self

end Indexable

end CodeAtlas
