import Mathlib
import CodeAtlas.Proofs.Project.History
import CodeAtlas.Proofs.Project.Scanned

/-!
# The effect of a file on a key

An incremental run goes through the source files of a project in some order. Apart from the children of nodes, what a
file does to an owned graph can be told key by key. Under a key that belongs to a touched file, the file puts its own
node or takes away the node that it had before. Under any other key, a new file puts the directory above it that is
missing there. In a project without colons in its paths no key is the concern of two files, except that they may need
the same directory. So files have their effects in any order.

Nothing is asked of the files: they may be locked, and their nodes need not fit the columns of a database.

## Main definitions

* `Colonless`: a project without colons in the paths of its source files
* `Graph.withCurrent`: a graph with a file put as it is now
* `Source.effect`: what a file does to the node under a key

## Main results

* `indexFile_cases`: what a file does to a run
* `Colonless.bare?_withCurrent_eq`: a file has its effect under every key
* `Colonless.effect_comm`, `Colonless.effects_perm`: files have their effects in any order
-/

namespace CodeAtlas

open Store

/-! ## Projects without colons -/

/-- A project without colons in the paths of its source files. As in any file system, the items of a directory have
different names, without slashes. -/
structure Colonless (disk : Entry) : Prop where
  named : disk.named isFileName = true
  colonless : ∀ path ∈ sourcePaths disk, ':' ∉ path.toList

instance (disk : Entry) : Decidable (Colonless disk) :=
  decidable_of_iff (disk.named isFileName = true ∧ ∀ path ∈ sourcePaths disk, ':' ∉ path.toList)
    ⟨fun h => ⟨h.1, h.2⟩, fun h => ⟨h.1, h.2⟩⟩

theorem Owns.map_fileOf {path : String} (hpath : ':' ∉ path.toList) {k : NodeId} (h : Owns path k) :
    k.map fileOf = some path := by
  rcases h with rfl | ⟨rest, rfl⟩
  · exact congrArg some (fileOf_of_not_mem hpath)
  · exact congrArg some (fileOf_append hpath rest)

namespace Colonless

variable {disk : Entry} {parts parts' : List String}

theorem plain (h : Colonless disk) (hm : parts ∈ sourceFiles disk) :
    parts ≠ [] ∧ ∀ n ∈ parts, isPlainName n = true := by
  obtain ⟨⟨content, locked, hplace⟩, -⟩ := mem_sourceFiles.mp hm
  obtain ⟨hne, hnames⟩ := names_of_mem_places (by decide) h.named hplace
  exact ⟨hne, plain_of_colon_not_mem hnames (h.colonless _ (mem_sourcePaths.mpr ⟨parts, hm, rfl⟩))⟩

theorem not_mem_path (h : Colonless disk) (hm : parts ∈ sourceFiles disk) : ':' ∉ (relativeText parts).toList :=
  h.colonless _ (mem_sourcePaths.mpr ⟨parts, hm, rfl⟩)

theorem parts_inj (h : Colonless disk) (hm : parts ∈ sourceFiles disk) (hm' : parts' ∈ sourceFiles disk)
    (heq : relativeText parts = relativeText parts') : parts = parts' :=
  relativeText_inj (isFileName_of_plain (h.plain hm).2) (isFileName_of_plain (h.plain hm').2) heq

theorem nodup (h : Colonless disk) : (sourceFiles disk).Nodup :=
  nodup_sourceFiles (by decide) h.named

end Colonless

/-! ## Missing directories -/

/-- The directory among some components below `done` that stands under a key. -/
def folderBelow? : List String → List String → NodeId → Option Node
  | _, [], _ => none
  | done, part :: rest, k =>
    if k = some (relativeText (done ++ [part])) then some (folderNode (done ++ [part]))
    else folderBelow? (done ++ [part]) rest k

/-- The directory above a file that stands under a key. -/
def folderAbove? (parts : List String) (k : NodeId) : Option Node :=
  folderBelow? [] parts.dropLast k

theorem folderBelow?_eq_some {done todo : List String} {k : NodeId} {n : Node}
    (h : folderBelow? done todo k = some n) :
    ∃ q rest, q ≠ [] ∧ q ++ rest = done ++ todo ∧ k = some (relativeText q) ∧ n = folderNode q := by
  induction todo generalizing done with
  | nil => cases h
  | cons part rest ih =>
    rw [folderBelow?] at h
    split at h
    · next hk => exact ⟨done ++ [part], rest, by simp, by simp, hk, (Option.some.inj h).symm⟩
    · obtain ⟨q, rest', hne, heq, hk, hn⟩ := ih h
      exact ⟨q, rest', hne, by simpa using heq, hk, hn⟩

/-- The directories above a file are those at its components without the last ones. -/
theorem folderAbove?_eq_some {parts : List String} (hne : parts ≠ []) {k : NodeId} {n : Node}
    (h : folderAbove? parts k = some n) :
    ∃ q rest, q ≠ [] ∧ rest ≠ [] ∧ parts = q ++ rest ∧ k = some (relativeText q) ∧ n = folderNode q := by
  obtain ⟨q, rest, hq, heq, hk, hn⟩ := folderBelow?_eq_some h
  refine ⟨q, rest ++ [parts.getLast hne], hq, by simp, ?_, hk, hn⟩
  rw [← List.append_assoc, heq, List.nil_append, List.dropLast_append_getLast]

/-- Missing directories are put one by one, and nothing else is. -/
theorem Graph.lastPut_addFoldersFrom {g : Graph} {todo : List String} (done : List String) (hdone : ∀ n ∈ done, isFileName n = true)
    (htodo : ∀ n ∈ todo, isFileName n = true) (k : NodeId) :
    Edit.lastPut k (g.addFoldersFrom (folderId done) (relativeText done) todo) =
      if g.contains k then none else folderBelow? done todo k := by
  -- the induction is on the components that are left; a directory that is put is there for all that come after it
  induction todo generalizing g done with
  | nil => simp [addFoldersFrom, folderBelow?]
  | cons part rest ih =>
    obtain ⟨hpart, hrest⟩ := List.forall_mem_cons.mp htodo
    have hhere : ∀ x ∈ done ++ [part], isFileName x = true :=
      List.forall_mem_append.mpr ⟨hdone, List.forall_mem_singleton.mpr hpart⟩
    have hne : done ++ [part] ≠ [] := by simp
    have hfolder : Node.folder (folderId (done ++ [part])) part (folderId done) = folderNode (done ++ [part]) := by
      rw [folderNode, List.dropLast_concat, folderId_of_ne_nil hne]
      simp
    rw [addFoldersFrom, here_eq hdone, ← folderId_of_ne_nil hne, folderBelow?, ← folderId_of_ne_nil hne]
    by_cases hthere : g.contains (folderId (done ++ [part])) = true
    · rw [if_pos hthere, ih _ hhere hrest]
      by_cases hk : k = folderId (done ++ [part])
      · rw [hk, if_pos hthere, if_pos hthere]
      · rw [if_neg hk]
    · rw [if_neg hthere, hfolder, Edit.lastPut, Edit.lastPut, ih _ hhere hrest, contains, find?_put]
      by_cases hk : k = folderId (done ++ [part])
      · -- this directory is put here, and from now on it is there
        rw [if_pos hk, hk, if_neg hthere]
        simp [Edit.put?]
      · rw [if_neg hk, if_neg hk, ← contains]
        simp [Edit.put?, Ne.symm hk]

/-- **The nodes after missing directories were put.** -/
theorem Graph.bare?_withFolders (g : Graph) {parts : List String} (hparts : ∀ n ∈ parts, isFileName n = true)
    (k : NodeId) : (g.withFolders parts).bare? k = (g.bare? k).or (folderAbove? parts k) := by
  have hlast : Edit.lastPut k (g.addFolders (.relative parts)) =
      if g.contains k then none else folderAbove? parts k :=
    lastPut_addFoldersFrom [] (by simp) (fun n hn => hparts n (List.dropLast_subset parts hn)) k
  have hkeeps : ∀ e ∈ g.addFolders (.relative parts), e.keeps = true := keeps_of_mem_addFoldersFrom
  rw [withFolders, bare?_applyAll hkeeps, hlast, contains_eq_isSome_bare?]
  cases hn : g.bare? k with
  | some n => rfl
  | none =>
    cases hfolder : folderAbove? parts k with
    | none => rfl
    | some m =>
      -- a new directory has no children
      obtain ⟨q, -, -, -, -, rfl⟩ := folderBelow?_eq_some hfolder
      rfl

/-! ## The nodes of a file as it is now -/

namespace Source

variable (s : Source) (disk : Entry) (parts : List String)

/-- The edits that put a source file as it is now. A file that may not be opened has no declarations. -/
def currentEdits : List Edit :=
  match Language.forPath? (s.absolute parts) with
  | some l =>
    CodeAtlas.fileEdits (s.absolute parts) (relativeText parts) (folderId parts.dropLast) l
      (l.outline s.read (s.absolute parts) (disk.readFile s.asUser parts))
  | none => []

/-- The node that a source file puts under a key. -/
def currentNode? (k : NodeId) : Option Node :=
  Edit.lastPut k (s.currentEdits disk parts)

theorem linking_currentEdits : ∃ ns, s.currentEdits disk parts = linkEdits ns ∧
    ∀ n ∈ ns, n.Fresh ∧ n.filePath = some (relativeText parts) := by
  unfold currentEdits
  split
  · refine ⟨_, fileEdits_eq_linkEdits _ _ _ _ _, fun n hn => ⟨fresh_of_mem_fileNodes n hn, ?_⟩⟩
    rcases List.mem_cons.mp hn with rfl | hn
    · rfl
    · obtain ⟨e, -, rfl⟩ := List.mem_map.mp hn
      rfl
  · exact ⟨[], rfl, by simp⟩

variable {s disk parts}

theorem put_mem_currentEdits {k : NodeId} {n : Node} (h : .put k n ∈ s.currentEdits disk parts) :
    n.Fresh ∧ n.id = k ∧ n.filePath = some (relativeText parts) := by
  obtain ⟨ns, heq, hns⟩ := linking_currentEdits s disk parts
  rw [heq] at h
  obtain ⟨hn, rfl⟩ := put_mem_linkEdits h
  exact ⟨(hns n hn).1, rfl, (hns n hn).2⟩

theorem keeps_of_mem_currentEdits : ∀ e ∈ s.currentEdits disk parts, e.keeps = true := by
  obtain ⟨ns, heq, -⟩ := linking_currentEdits s disk parts
  rw [heq]
  intro e he
  obtain ⟨n, -, he⟩ := List.mem_flatMap.mp he
  simp only [List.mem_cons, List.not_mem_nil, or_false] at he
  rcases he with rfl | rfl <;> rfl

theorem currentNode?_eq_some {k : NodeId} {n : Node} (h : s.currentNode? disk parts k = some n) :
    n.bare = n ∧ n.Owned k ∧ n.filePath = some (relativeText parts) := by
  rw [currentNode?] at h
  obtain ⟨⟨hchildren, -, howned⟩, rfl, hpath⟩ := put_mem_currentEdits (Edit.mem_of_lastPut h)
  exact ⟨Node.bare_of_children_eq_nil hchildren, howned, hpath⟩

end Source

/-- Whether a node has nothing to do with a path, neither by its file nor by its key. -/
def isForeign (path : String) (k : NodeId) (n : Node) : Bool :=
  !(n.filePath == some path || k == some path)

namespace Graph

/-- The graph with a source file put as it is now, in place of what belonged to it before. -/
def withCurrent (g : Graph) (s : Source) (disk : Entry) (parts : List String) : Graph :=
  g.applyAll (g.removeFile (relativeText parts) ++ s.currentEdits disk parts)

variable {g : Graph} {s : Source} {disk : Entry} {parts : List String}

theorem bare?_withCurrent (h : g.keys.Nodup) (k : NodeId) :
    (g.withCurrent s disk parts).bare? k =
      (s.currentNode? disk parts k).or ((g.bare? k).filter (isForeign (relativeText parts) k)) := by
  have hbare : (s.currentNode? disk parts k).map Node.bare = s.currentNode? disk parts k := by
    cases hn : s.currentNode? disk parts k with
    | none => rfl
    | some n => rw [Option.map_some, (Source.currentNode?_eq_some hn).1]
  rw [withCurrent, applyAll, List.foldl_append]
  change ((g.applyAll (g.removeFile (relativeText parts))).applyAll (s.currentEdits disk parts)).bare? k = _
  rw [bare?_applyAll Source.keeps_of_mem_currentEdits, bare?_removeFile h, ← Source.currentNode?, hbare]
  rfl

theorem Owned.withCurrent (h : g.Owned) : (g.withCurrent s disk parts).Owned := by
  refine h.applyAll fun k n hput => ?_
  rcases List.mem_append.mp hput with hput | hput
  · rcases mem_removeFile hput with ⟨parent, child, heq⟩ | ⟨key, heq⟩ <;> cases heq
  · obtain ⟨⟨-, -, howned⟩, rfl, -⟩ := Source.put_mem_currentEdits hput
    exact howned

theorem owned_of_put_mem_addFoldersFrom {todo : List String} {parent : NodeId} {above : String} {k : NodeId} {n : Node}
    (hput : .put k n ∈ g.addFoldersFrom parent above todo) : n.Owned k := by
  induction todo generalizing g parent above with
  | nil => cases hput
  | cons part rest ih =>
    rw [addFoldersFrom] at hput
    generalize (if above.isEmpty then part else above ++ "/" ++ part) = here at hput
    split at hput
    · exact ih hput
    · rcases List.mem_cons.mp hput with heq | hput
      · obtain ⟨rfl, rfl⟩ := Edit.put.inj heq
        exact ⟨rfl, fun path hpath => by cases hpath⟩
      rcases List.mem_cons.mp hput with heq | hput
      · cases heq
      exact ih hput

theorem Owned.withFolders (h : g.Owned) : (g.withFolders parts).Owned :=
  h.applyAll fun _ _ hput => owned_of_put_mem_addFoldersFrom hput

end Graph

/-! ## One file of a run -/

instance (known : List (String × String)) (parts : List String) : Decidable (IsNew known parts) :=
  inferInstanceAs (Decidable (_ = _))

instance (disk : Entry) (known : List (String × String)) (parts : List String) :
    Decidable (IsTouched disk known parts) :=
  inferInstanceAs (Decidable (_ ≠ _))

section File

variable {s : Source} {disk : Entry} {known : List (String × String)} {p p' : Progress} {parts : List String}

/-- A file is added, or the node above it is missing. -/
theorem addFile_cases (g : Graph) (s : Source) (disk : Entry) (parts : List String) :
    g.addFile s disk parts (s.absolute parts) (relativeText parts) (some (Path.relative parts).parent.toString) =
        .ofList (g.removeFile (relativeText parts) ++ s.currentEdits disk parts) ∨
      (g.addFile s disk parts (s.absolute parts) (relativeText parts)
        (some (Path.relative parts).parent.toString)).failure = some (.missingNode (folderId parts.dropLast)) := by
  unfold Graph.addFile Source.currentEdits
  rw [← folderId_dropLast]
  cases Language.forPath? (s.absolute parts) with
  | none =>
    -- what belonged to the file is removed all the same
    exact Or.inl (by simp)
  | some l =>
    simp only
    split
    · exact Or.inl rfl
    · exact Or.inr rfl

/-- A file stops a run only if the node above it is missing. -/
theorem missingNode_of_indexFile {f : Failure} (h : indexFile s disk known p parts = .error f) :
    f = .missingNode (folderId parts.dropLast) := by
  unfold indexFile at h
  simp only at h
  split at h
  · cases h
  split at h
  · rcases addFile_cases (p.graph.applyAll (p.graph.addFolders (.relative parts))) s disk parts with hadd | hadd
    · rw [hadd] at h
      cases h
    · rw [hadd] at h
      exact (Except.error.inj h).symm
  · split at h
    · cases h
    · rcases addFile_cases p.graph s disk parts with hadd | hadd
      · rw [hadd] at h
        cases h
      · rw [hadd] at h
        exact (Except.error.inj h).symm

/-- **What a file does to a run that it does not stop**: it is passed over, it is new, or it was edited. -/
theorem indexFile_cases {digest : String} (hdigest : fileDigest? disk parts = some digest)
    (h : indexFile s disk known p parts = .ok p') :
    ¬ IsTouched disk known parts ∧ ¬ IsNew known parts ∧ p' = p ∨
      IsTouched disk known parts ∧ IsNew known parts ∧ p' =
        { p with
          graph := (p.graph.withFolders parts).withCurrent s disk parts
          digests := p.digests ++ [(relativeText parts, digest)]
          addedIds := p.addedIds ++
            (searchedIn ((p.graph.withFolders parts).withCurrent s disk parts) (relativeText parts)).filter
              fun id => !(p.graph.withFolders parts).contains id
          addedFiles := p.addedFiles + 1 } ∨
      IsTouched disk known parts ∧ ¬ IsNew known parts ∧ p' =
        { p with
          graph := p.graph.withCurrent s disk parts
          digests := p.digests ++ [(relativeText parts, digest)]
          updatedIds := p.updatedIds ++ searchedIn p.graph (relativeText parts) ++
            searchedIn (p.graph.withCurrent s disk parts) (relativeText parts)
          updatedFiles := p.updatedFiles + 1 } := by
  unfold IsTouched IsNew
  unfold indexFile at h
  simp only [hdigest] at h ⊢
  cases hknown : known.lookup (relativeText parts) with
  | none =>
    -- the directories above a new file are put first
    simp only [hknown] at h
    rcases addFile_cases (p.graph.applyAll (p.graph.addFolders (.relative parts))) s disk parts with hadd | hadd
    · rw [hadd] at h
      exact Or.inr (Or.inl ⟨by simp, rfl, (Except.ok.inj h).symm⟩)
    · rw [hadd] at h
      cases h
  | some old =>
    simp only [hknown] at h
    by_cases hold : old = digest
    · rw [if_pos hold] at h
      exact Or.inl ⟨by simp [hold], by simp, (Except.ok.inj h).symm⟩
    · rw [if_neg hold] at h
      rcases addFile_cases p.graph s disk parts with hadd | hadd
      · rw [hadd] at h
        exact Or.inr (Or.inr ⟨by simpa using hold, by simp, (Except.ok.inj h).symm⟩)
      · rw [hadd] at h
        cases h

/-- Files keep a graph owned. -/
theorem owned_of_indexFile (hp : p.graph.Owned) (h : indexFile s disk known p parts = .ok p') : p'.graph.Owned := by
  cases hdigest : fileDigest? disk parts with
  | none =>
    -- a file that is not there is passed over
    simp only [indexFile, hdigest] at h
    rwa [← Except.ok.inj h]
  | some digest =>
    rcases indexFile_cases hdigest h with ⟨-, -, rfl⟩ | ⟨-, -, rfl⟩ | ⟨-, -, rfl⟩
    · exact hp
    · exact hp.withFolders.withCurrent
    · exact hp.withCurrent

/-- A run that nothing stops goes on after its first file. -/
theorem exists_of_foldlM_cons {rest : List (List String)}
    (h : (parts :: rest).foldlM (indexFile s disk known) p = .ok p') :
    ∃ q, indexFile s disk known p parts = .ok q ∧ rest.foldlM (indexFile s disk known) q = .ok p' := by
  rw [List.foldlM_cons] at h
  cases hstep : indexFile s disk known p parts with
  | error f =>
    rw [hstep] at h
    cases h
  | ok q =>
    rw [hstep] at h
    exact ⟨q, rfl, h⟩

end File

/-! ## Effects -/

/-- The directory under a key that a new file puts if it is missing. -/
def newFolder? (known : List (String × String)) (parts : List String) (k : NodeId) : Option Node :=
  if IsNew known parts then folderAbove? parts k else none

/-- The effect of a file on the node under a key. A file that is known as it is has none. -/
def Source.effect (s : Source) (disk : Entry) (known : List (String × String)) (parts : List String) (k : NodeId)
    (n? : Option Node) : Option Node :=
  if ¬ IsTouched disk known parts then n?
  else if k.map fileOf = some (relativeText parts) then
    (s.currentNode? disk parts k).or (n?.filter (isForeign (relativeText parts) k))
  else n?.or (newFolder? known parts k)

/-- The effects of several files on the node under a key, one after the other. -/
def Source.effects (s : Source) (disk : Entry) (known : List (String × String)) (files : List (List String))
    (k : NodeId) (n? : Option Node) : Option Node :=
  files.foldl (fun n? parts => s.effect disk known parts k n?) n?

/-- The only effect on a key that does not belong to a file is a missing directory. -/
theorem Source.effect_of_map_fileOf_ne {s : Source} {disk : Entry} {known : List (String × String)}
    {parts : List String} {k : NodeId} (hk : k.map fileOf ≠ some (relativeText parts)) (n? : Option Node) :
    s.effect disk known parts k n? = if IsTouched disk known parts then n?.or (newFolder? known parts k) else n? := by
  rw [effect, if_neg hk, ite_not]

namespace Colonless

variable {s : Source} {disk : Entry} {known : List (String × String)} {parts a b : List String} {k : NodeId}

/-- No directory above a source file has a key that belongs to a source file. -/
theorem folderAbove?_eq_none (h : Colonless disk) (ha : a ∈ sourceFiles disk) (hb : b ∈ sourceFiles disk)
    (hk : k.map fileOf = some (relativeText a)) : folderAbove? b k = none := by
  cases hfolder : folderAbove? b k with
  | none => rfl
  | some n =>
    exfalso
    obtain ⟨q, rest, hq, hrest, rfl, rfl, -⟩ := folderAbove?_eq_some (h.plain hb).1 hfolder
    have hplain : ∀ x ∈ q, isPlainName x = true := fun x hx => (h.plain hb).2 x (List.mem_append_left _ hx)
    rw [Option.map_some, fileOf_relativeText hplain, Option.some_inj] at hk
    obtain rfl := relativeText_inj (isFileName_of_plain hplain) (isFileName_of_plain (h.plain ha).2) hk
    -- the same components would be those of a file and of a directory
    obtain ⟨⟨content, locked, hfile⟩, -⟩ := mem_sourceFiles.mp ha
    obtain ⟨⟨content', locked', hbelow⟩, -⟩ := mem_sourceFiles.mp hb
    obtain ⟨items, locked'', hplace⟩ := folder_of_append_mem_places hq hrest hbelow
    cases place_unique (by decide) h.named hfile hplace

theorem newFolder?_eq_none (h : Colonless disk) (ha : a ∈ sourceFiles disk) (hb : b ∈ sourceFiles disk)
    (hk : k.map fileOf = some (relativeText a)) : newFolder? known b k = none := by
  rw [newFolder?, h.folderAbove?_eq_none ha hb hk, ite_self]

/-- Directories that two source files put under one key are the same. -/
theorem newFolder?_or_comm (h : Colonless disk) (ha : a ∈ sourceFiles disk) (hb : b ∈ sourceFiles disk) (k : NodeId) :
    (newFolder? known a k).or (newFolder? known b k) = (newFolder? known b k).or (newFolder? known a k) := by
  cases hm : newFolder? known a k with
  | none => simp
  | some m =>
    cases hn : newFolder? known b k with
    | none => simp
    | some n =>
      have hfolder : ∀ {c : List String} {x : Node}, newFolder? known c k = some x → folderAbove? c k = some x := by
        intro c x hx
        rw [newFolder?] at hx
        split at hx
        · exact hx
        · cases hx
      obtain ⟨q, rest, -, -, rfl, rfl, rfl⟩ := folderAbove?_eq_some (h.plain ha).1 (hfolder hm)
      obtain ⟨q', rest', -, -, rfl, hk, rfl⟩ := folderAbove?_eq_some (h.plain hb).1 (hfolder hn)
      -- a key is the text of one path only
      have hnames : ∀ x ∈ q, isFileName x = true := fun x hx =>
        isFileName_of_plain (h.plain ha).2 x (List.mem_append_left _ hx)
      have hnames' : ∀ x ∈ q', isFileName x = true := fun x hx =>
        isFileName_of_plain (h.plain hb).2 x (List.mem_append_left _ hx)
      rw [relativeText_inj hnames hnames' (Option.some.inj hk)]

/-- A file has no effect on the keys that belong to another one. -/
theorem effect_of_other (h : Colonless disk) (ha : a ∈ sourceFiles disk) (hb : b ∈ sourceFiles disk) (hne : a ≠ b)
    (hk : k.map fileOf = some (relativeText a)) (n? : Option Node) : s.effect disk known b k n? = n? := by
  have hother : k.map fileOf ≠ some (relativeText b) := by
    intro hkb
    exact hne (h.parts_inj ha hb (Option.some.inj (hk.symm.trans hkb)))
  rw [Source.effect_of_map_fileOf_ne hother, h.newFolder?_eq_none ha hb hk, Option.or_none, ite_self]

/-- **Two files have their effects in any order.** -/
theorem effect_comm (h : Colonless disk) (ha : a ∈ sourceFiles disk) (hb : b ∈ sourceFiles disk) (k : NodeId)
    (n? : Option Node) :
    s.effect disk known b k (s.effect disk known a k n?) = s.effect disk known a k (s.effect disk known b k n?) := by
  by_cases hne : a = b
  · rw [hne]
  by_cases hka : k.map fileOf = some (relativeText a)
  · rw [h.effect_of_other ha hb hne hka, h.effect_of_other ha hb hne hka]
  by_cases hkb : k.map fileOf = some (relativeText b)
  · rw [h.effect_of_other hb ha (Ne.symm hne) hkb, h.effect_of_other hb ha (Ne.symm hne) hkb]
  -- both files can only put a directory here
  simp only [Source.effect_of_map_fileOf_ne hka, Source.effect_of_map_fileOf_ne hkb]
  by_cases hta : IsTouched disk known a
  · by_cases htb : IsTouched disk known b
    · rw [if_pos hta, if_pos htb, if_pos htb, if_pos hta, Option.or_assoc, Option.or_assoc,
        h.newFolder?_or_comm ha hb]
    · rw [if_neg htb, if_neg htb]
  · rw [if_neg hta, if_neg hta]

/-- **Files have their effects in any order.** -/
theorem effects_perm (h : Colonless disk) {files files' : List (List String)} (hperm : files.Perm files')
    (hfiles : ∀ parts ∈ files, parts ∈ sourceFiles disk) (k : NodeId) (n? : Option Node) :
    s.effects disk known files k n? = s.effects disk known files' k n? :=
  hperm.foldl_eq' (fun a ha b hb n? => h.effect_comm (hfiles a ha) (hfiles b hb) k n?) n?

/-- Files have no effects on the keys that belong to another one. -/
theorem effects_of_other (h : Colonless disk) {files : List (List String)}
    (hfiles : ∀ parts ∈ files, parts ∈ sourceFiles disk) (ha : a ∈ sourceFiles disk) (hnot : a ∉ files)
    (hk : k.map fileOf = some (relativeText a)) (n? : Option Node) : s.effects disk known files k n? = n? := by
  unfold Source.effects
  induction files with
  | nil => rfl
  | cons b rest ih =>
    obtain ⟨hne, hrest⟩ := not_or.mp (fun hm => hnot (List.mem_cons.mpr hm))
    obtain ⟨hb, hsources⟩ := List.forall_mem_cons.mp hfiles
    rw [List.foldl_cons, h.effect_of_other ha hb hne hk]
    exact ih hsources hrest

/-- Of several files only the one that a key belongs to has an effect on it. -/
theorem effects_of_mem (h : Colonless disk) {files : List (List String)} (hnodup : files.Nodup)
    (hfiles : ∀ parts ∈ files, parts ∈ sourceFiles disk) (ha : a ∈ files) (hk : k.map fileOf = some (relativeText a))
    (n? : Option Node) : s.effects disk known files k n? = s.effect disk known a k n? := by
  have hfirst : files.Perm (a :: files.erase a) := List.perm_cons_erase ha
  rw [h.effects_perm hfirst hfiles, Source.effects, List.foldl_cons]
  refine h.effects_of_other (fun b hb => hfiles b (List.mem_of_mem_erase hb)) (hfiles a ha) ?_ hk _
  exact hnodup.not_mem_erase

/-- A key of an owned node belongs to the path of the node. -/
theorem map_fileOf_of_owned (h : Colonless disk) (hm : parts ∈ sourceFiles disk) {n : Node} (howned : n.Owned k)
    (hpath : n.filePath = some (relativeText parts)) : k.map fileOf = some (relativeText parts) :=
  (howned.2 _ hpath).map_fileOf (h.not_mem_path hm)

/-- A file that is put after the directories that it needs has its effect under every key. -/
theorem bare?_withCurrent_eq (h : Colonless disk) (hm : parts ∈ sourceFiles disk) (ht : IsTouched disk known parts)
    {g base : Graph} (hbase : base.Owned) (hfolders : ∀ k, base.bare? k = (g.bare? k).or (newFolder? known parts k))
    (k : NodeId) : (base.withCurrent s disk parts).bare? k = s.effect disk known parts k (g.bare? k) := by
  rw [Graph.bare?_withCurrent hbase.distinct, Source.effect, if_neg (not_not.mpr ht)]
  by_cases hk : k.map fileOf = some (relativeText parts)
  · rw [if_pos hk, hfolders, h.newFolder?_eq_none hm hm hk, Option.or_none]
  · rw [if_neg hk, ← hfolders]
    -- nothing under this key comes from the file, now or before
    have hcurrent : s.currentNode? disk parts k = none := by
      cases hn : s.currentNode? disk parts k with
      | none => rfl
      | some n =>
        obtain ⟨-, howned, hpath⟩ := Source.currentNode?_eq_some hn
        exact absurd (h.map_fileOf_of_owned hm howned hpath) hk
    rw [hcurrent, Option.none_or]
    cases hn : base.bare? k with
    | none => rfl
    | some n =>
      have howned : n.Owned k := hbase.of_bare? hn
      have hforeign : isForeign (relativeText parts) k n = true := by
        simp only [isForeign, Bool.not_eq_true', Bool.or_eq_false_iff, beq_eq_false_iff_ne]
        refine ⟨fun hpath => hk (h.map_fileOf_of_owned hm howned hpath), ?_⟩
        rintro rfl
        exact hk (congrArg some (fileOf_of_not_mem (h.not_mem_path hm)))
      rw [Option.filter_some, if_pos hforeign]

end Colonless

end CodeAtlas
