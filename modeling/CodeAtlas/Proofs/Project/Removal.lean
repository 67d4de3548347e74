import Mathlib
import CodeAtlas.Proofs.Project.Visits

/-!
# Files that were never there

Files can be deleted from the store without a new scan. If no path has a colon, this comes to the same as if the files
had never been there: the table of nodes is row for row that of the project without the files. The order of deletion
does not matter, nor do repetitions. Since directories stay, and since a declaration goes with its whole file, no row is
left that names a deleted one as the node above.

The scan of the project without the files comes to the same directories and to the other files, in the same order. A
node is put in the place of another one only within one file. So to leave out the nodes of some files is the same before
and after the nodes were put.

## Main definitions

* `Entry.without`: a project without some files
* `keepsKey`: whether a key does not belong to some files
* `Connection.deleteEach`: files deleted one after another

## Main results

* `nodes_visited_without`: the nodes of a project without some files
* `filter_foldl_putNode`: nodes can be left out before or after they are put
* `bares_scan_without`: the graph of a project without some files
* `deleted_eq_never_scanned`: deleting files equals never having had them
-/

namespace CodeAtlas

open Store

/-! ## A project without some files -/

mutual

/-- An entry at some components without the files at some paths. Directories stay. -/
def Entry.without (gone : List String) (parts : List String) : Entry → Entry
  | .file content locked => .file content locked
  | .folder items locked => .folder (itemsWithout gone parts items) locked

/-- The items of a directory without the files at some paths. -/
def itemsWithout (gone : List String) (parts : List String) : List (String × Entry) → List (String × Entry)
  | [] => []
  | (name, e) :: rest =>
    if !e.isFolder && gone.contains (relativeText (parts ++ [name])) then itemsWithout gone parts rest
    else (name, e.without gone (parts ++ [name])) :: itemsWithout gone parts rest

end

/-- Whether a visit is left if the files at some paths are not there. -/
def Visit.isKept (gone : List String) : Visit → Bool
  | .folder _ => true
  | .file parts _ => !gone.contains (relativeText parts)

/-- Whether a node does not belong to the files at some paths. -/
def Node.isKept (gone : List String) (n : Node) : Bool :=
  match n.filePath with
  | some path => !gone.contains path
  | none => true

section Visits

variable {s : Source} {patterns : List String} {gone : List String}

mutual

theorem visitsBelow_without : ∀ (e : Entry) (parts : List String),
    (e.isFolder = true ∨ gone.contains (relativeText parts) = false) →
      visitsBelow s patterns parts (e.without gone parts) = (visitsBelow s patterns parts e).filter (Visit.isKept gone)
  | .file content locked, parts, h => by
    rw [Entry.without, visitsBelow]
    split
    · rfl
    · have hkept : gone.contains (relativeText parts) = false := h.resolve_left (by simp [Entry.isFolder])
      rw [List.filter_cons_of_pos (by rw [Visit.isKept, hkept, Bool.not_false]), List.filter_nil]
  | .folder items locked, parts, h => by
    rw [Entry.without, visitsBelow, visitsBelow]
    split
    · rfl
    · rw [List.filter_cons_of_pos rfl]
      split
      · rfl
      · rw [visitsAmong_without items parts]

theorem visitsAmong_without : ∀ (items : List (String × Entry)) (parts : List String),
    visitsAmong s patterns parts (itemsWithout gone parts items) =
      (visitsAmong s patterns parts items).filter (Visit.isKept gone)
  | [], parts => by
    rw [itemsWithout, visitsAmong, List.filter_nil]
  | (name, e) :: rest, parts => by
    rw [itemsWithout, visitsAmong, List.filter_append, ← visitsAmong_without rest parts]
    split
    · next hgone =>
      -- the item is one of the files, so nothing of it is left
      rw [Bool.and_eq_true, Bool.not_eq_true'] at hgone
      cases e with
      | folder items locked => cases hgone.1
      | file content locked =>
        rw [visitsBelow]
        split
        · rfl
        · rw [List.filter_cons_of_neg (by rw [Visit.isKept, hgone.2]; simp), List.filter_nil, List.nil_append]
    · next hkept =>
      rw [visitsAmong, visitsBelow_without e (parts ++ [name])]
      cases e with
      | folder items locked => exact Or.inl rfl
      | file content locked => exact Or.inr (by simpa [Entry.isFolder] using hkept)

end

/-- What the scan of a project without some files comes to. -/
theorem visited_without (disk : Entry) :
    visited s patterns (disk.without gone []) = (visited s patterns disk).filter (Visit.isKept gone) := by
  unfold visited
  cases disk with
  | file content locked => rfl
  | folder items locked =>
    rw [Entry.without, Entry.listing?, Entry.listing?]
    split
    · next heq =>
      split at heq
      · cases heq
      · rw [← Option.some.inj heq, visitsAmong_without]
        next hopen => rw [if_neg hopen]
    · next heq =>
      split at heq
      · next hlocked => rw [if_pos hlocked]; rfl
      · cases heq

/-- The nodes of a file have its path, and that of a directory has none. -/
theorem Visit.filter_nodes (v : Visit) :
    (v.nodes s).filter (Node.isKept gone) = if v.isKept gone then v.nodes s else [] := by
  cases v with
  | folder parts => rfl
  | file parts content =>
    -- whether a node is kept hangs on the path of the file only
    have hsame : ∀ n ∈ s.nodes parts content, n.isKept gone = !gone.contains (relativeText parts) := by
      intro n hn
      have hpath : n.filePath = some (relativeText parts) := by
        unfold Source.nodes at hn
        split at hn
        · rcases List.mem_cons.mp hn with rfl | hn
          · rfl
          · obtain ⟨e, -, rfl⟩ := List.mem_map.mp hn
            rfl
        · cases hn
      rw [Node.isKept, hpath]
    change (s.nodes parts content).filter _ = if !gone.contains (relativeText parts) then s.nodes parts content else []
    split
    · next hkept => exact List.filter_eq_self.mpr fun n hn => by rw [hsame n hn, hkept]
    · next hgone => exact List.filter_eq_nil_iff.mpr fun n hn => by rw [hsame n hn]; exact hgone

/-- **The nodes of a project without some files** are those of the project that do not belong to the files. -/
theorem nodes_visited_without (disk : Entry) :
    (visited s patterns (disk.without gone [])).flatMap (Visit.nodes s) =
      ((visited s patterns disk).flatMap (Visit.nodes s)).filter (Node.isKept gone) := by
  rw [visited_without, List.filter_flatMap]
  induction visited s patterns disk with
  | nil => rfl
  | cons v vs ih =>
    rw [List.flatMap_cons, ← ih, Visit.filter_nodes, List.filter_cons]
    split
    · rw [List.flatMap_cons]
    · rfl

end Visits

/-! ## The nodes of a graph in order -/

namespace Graph

/-- The keys with their nodes, without the children. -/
def bares (g : Graph) : List (NodeId × Node) :=
  g.nodes.map fun entry => (entry.1, entry.2.bare)

theorem bares_put (g : Graph) (key : NodeId) (n : Node) : (g.put key n).bares = putNode key n.bare g.bares := by
  obtain ⟨nodes⟩ := g
  unfold bares put
  induction nodes with
  | nil => rfl
  | cons entry rest ih =>
    obtain ⟨k, m⟩ := entry
    by_cases hk : k = key
    · simp [putNode, hk]
    · simp only [putNode, hk, if_false, List.map_cons] at ih ⊢
      rw [ih]

theorem bares_modifyChildren (g : Graph) (key : NodeId) (f : List NodeId → List NodeId) :
    (g.modifyChildren key f).bares = g.bares := by
  unfold bares modifyChildren modify
  rw [List.map_map]
  apply List.map_congr_left
  intro entry _
  simp only [Function.comp]
  split <;> rfl

/-- Nodes that are put below the nodes above them are put one after another. -/
theorem bares_linkEdits (g : Graph) (ns : List Node) :
    (g.applyAll (linkEdits ns)).bares = ns.foldl (fun entries n => putNode n.id n.bare entries) g.bares := by
  induction ns generalizing g with
  | nil => rfl
  | cons n ns ih =>
    change (((g.put n.id n).modifyChildren n.parent (· ++ [n.id])).applyAll (linkEdits ns)).bares = _
    rw [ih, bares_modifyChildren, bares_put, List.foldl_cons]

theorem filter_putNode (keep : NodeId → Bool) (key : NodeId) (n : Node) (entries : List (NodeId × Node)) :
    (putNode key n entries).filter (fun entry => keep entry.1) =
      if keep key then putNode key n (entries.filter fun entry => keep entry.1)
      else entries.filter fun entry => keep entry.1 := by
  induction entries with
  | nil => cases hkeep : keep key <;> simp [putNode, hkeep]
  | cons entry rest ih =>
    obtain ⟨k, m⟩ := entry
    rw [putNode]
    by_cases hk : k = key
    · -- the node takes the place of the one under its key
      subst hk
      cases hkeep : keep k <;> simp [hkeep, putNode]
    · rw [if_neg hk, List.filter_cons, List.filter_cons, ih]
      cases hkept : keep k <;> cases hkeep : keep key <;> simp [putNode, hk]

/-- **Nodes can be left out before or after they are put**, if this is decided by their keys. -/
theorem filter_foldl_putNode {keep : NodeId → Bool} {p : Node → Bool} {ns : List Node}
    (h : ∀ n ∈ ns, p n = keep n.id) (entries : List (NodeId × Node)) :
    (ns.foldl (fun entries n => putNode n.id n.bare entries) entries).filter (fun entry => keep entry.1) =
      (ns.filter p).foldl (fun entries n => putNode n.id n.bare entries) (entries.filter fun entry => keep entry.1) := by
  induction ns generalizing entries with
  | nil => rfl
  | cons n ns ih =>
    obtain ⟨hn, hns⟩ := List.forall_mem_cons.mp h
    rw [List.foldl_cons, ih hns, filter_putNode, List.filter_cons, hn]
    cases keep n.id <;> rfl

theorem mem_putNode {key : NodeId} {n : Node} {entries : List (NodeId × Node)} {entry : NodeId × Node}
    (h : entry ∈ putNode key n entries) : entry = (key, n) ∨ entry ∈ entries := by
  induction entries with
  | nil => exact Or.inl (List.mem_singleton.mp h)
  | cons first rest ih =>
    obtain ⟨k, m⟩ := first
    rw [putNode] at h
    split at h
    · exact (List.mem_cons.mp h).imp_right (List.mem_cons_of_mem _)
    · rcases List.mem_cons.mp h with rfl | h
      · exact Or.inr List.mem_cons_self
      · exact (ih h).imp_right (List.mem_cons_of_mem _)

theorem mem_foldl_putNode {ns : List Node} {entries : List (NodeId × Node)} {entry : NodeId × Node}
    (h : entry ∈ ns.foldl (fun entries n => putNode n.id n.bare entries) entries) :
    entry ∈ entries ∨ ∃ n ∈ ns, entry = (n.id, n.bare) := by
  induction ns generalizing entries with
  | nil => exact Or.inl h
  | cons n ns ih =>
    rcases ih h with h | ⟨m, hm, heq⟩
    · rcases mem_putNode h with heq | h
      · exact Or.inr ⟨n, List.mem_cons_self, heq⟩
      · exact Or.inl h
    · exact Or.inr ⟨m, List.mem_cons_of_mem _ hm, heq⟩

end Graph

/-! ## Keys that belong to files -/

/-- Whether a key does not belong to the files at some paths. -/
def keepsKey (gone : List String) : NodeId → Bool
  | some id => !gone.contains (fileOf id)
  | none => true

/-- A project has a file at a path. -/
def Entry.HasFile (disk : Entry) (path : String) : Prop :=
  ∃ place ∈ disk.places, place.2.isFolder = false ∧ path = relativeText place.1

instance (disk : Entry) (path : String) : Decidable (disk.HasFile path) :=
  inferInstanceAs (Decidable (∃ place ∈ disk.places, _))

mutual

theorem place_of_mem_visitsBelow {s : Source} {patterns : List String} : ∀ (e : Entry) (parts : List String) (v : Visit),
    v ∈ visitsBelow s patterns parts e →
      ∃ d, (v.parts, d) ∈ placesBelow parts e ∧ ∀ q, v = .folder q → d.isFolder = true
  | .file content locked, parts, v, hv => by
    rw [visitsBelow] at hv
    split at hv
    · cases hv
    · rw [List.mem_singleton.mp hv]
      refine ⟨.file content locked, List.mem_singleton.mpr rfl, ?_⟩
      intro q hq
      cases hq
  | .folder items locked, parts, v, hv => by
    rw [visitsBelow] at hv
    split at hv
    · cases hv
    rcases List.mem_cons.mp hv with rfl | hv
    · exact ⟨.folder items locked, List.mem_cons_self, fun _ _ => rfl⟩
    split at hv
    · cases hv
    · obtain ⟨d, hd, hfolder⟩ := place_of_mem_visitsAmong items parts v hv
      exact ⟨d, List.mem_cons_of_mem _ hd, hfolder⟩

theorem place_of_mem_visitsAmong {s : Source} {patterns : List String} :
    ∀ (items : List (String × Entry)) (parts : List String) (v : Visit), v ∈ visitsAmong s patterns parts items →
      ∃ d, (v.parts, d) ∈ placesAmong parts items ∧ ∀ q, v = .folder q → d.isFolder = true
  | [], parts, v, hv => by
    rw [visitsAmong] at hv
    cases hv
  | (name, e) :: rest, parts, v, hv => by
    rw [visitsAmong] at hv
    rcases List.mem_append.mp hv with hv | hv
    · obtain ⟨d, hd, hfolder⟩ := place_of_mem_visitsBelow e (parts ++ [name]) v hv
      exact ⟨d, List.mem_append_left _ hd, hfolder⟩
    · obtain ⟨d, hd, hfolder⟩ := place_of_mem_visitsAmong rest parts v hv
      exact ⟨d, List.mem_append_right _ hd, hfolder⟩

end

/-- What a scan comes to is a place of the project, and its directories are directories. -/
theorem place_of_mem_visited {s : Source} {patterns : List String} {disk : Entry} {v : Visit}
    (hv : v ∈ visited s patterns disk) :
    ∃ d, (v.parts, d) ∈ disk.places ∧ ∀ q, v = .folder q → d.isFolder = true := by
  unfold visited at hv
  cases disk with
  | file content locked => cases hv
  | folder items locked =>
    rw [Entry.listing?] at hv
    by_cases hopen : (s.asUser && locked) = true
    · rw [if_pos hopen] at hv
      cases hv
    · rw [if_neg hopen] at hv
      exact place_of_mem_visitsAmong items [] v hv

section Keys

variable {s : Source} {patterns : List String} {disk : Entry} (hnamed : disk.named isPlainName = true)
  {gone : List String} (hgone : ∀ path ∈ gone, disk.HasFile path)

include hnamed hgone

/-- A file and a directory have different paths. -/
theorem folder_not_gone {parts : List String} {d : Entry} (hd : (parts, d) ∈ disk.places) (hfolder : d.isFolder = true) :
    relativeText parts ∉ gone := by
  intro hmem
  obtain ⟨⟨q, e⟩, hq, hfile, heq⟩ := hgone _ hmem
  have hparts := (names_of_mem_places (by decide) hnamed hd).2
  have hnames := (names_of_mem_places (by decide) hnamed hq).2
  obtain rfl := relativeText_inj (isFileName_of_plain hparts) (isFileName_of_plain hnames) heq
  rw [place_unique (by decide) hnamed hd hq, hfile] at hfolder
  cases hfolder

/-- The path of a file has no colon. -/
theorem colon_not_mem_of_gone {path : String} (hmem : path ∈ gone) : ':' ∉ path.toList := by
  obtain ⟨⟨q, e⟩, hq, -, rfl⟩ := hgone _ hmem
  exact colon_not_mem_relativeText (names_of_mem_places (by decide) hnamed hq).2

/-- Directories are kept, and so is the root. -/
theorem keepsKey_folderId {parts : List String} (h : parts = [] ∨ ∃ d, (parts, d) ∈ disk.places ∧ d.isFolder = true) :
    keepsKey gone (folderId parts) = true := by
  rcases h with rfl | ⟨d, hd, hfolder⟩
  · -- a dot is the path of no file
    have hroot : "." ∉ gone := by
      intro hmem
      obtain ⟨⟨q, e⟩, hq, -, heq⟩ := hgone _ hmem
      have hnames := (names_of_mem_places (by decide) hnamed hq).2
      exact relativeText_ne_dot (isFileName_of_plain hnames) heq.symm
    have hfile : fileOf "." = "." := fileOf_of_not_mem (by decide)
    rw [folderId_nil, Graph.rootKey, keepsKey, hfile]
    simpa using hroot
  · obtain ⟨hne, hparts⟩ := names_of_mem_places (by decide) hnamed hd
    rw [folderId_of_ne_nil hne, keepsKey, fileOf_relativeText hparts]
    simpa using folder_not_gone hnamed hgone hd hfolder

theorem keepsKey_rootKey : keepsKey gone Graph.rootKey = true := by
  rw [← folderId_nil]
  exact keepsKey_folderId hnamed hgone (Or.inl rfl)

/-- Whether a node of a scan is kept is decided by its key, and with a node that is kept the node above it is. -/
theorem keepsKey_of_mem_nodes {v : Visit} (hv : v ∈ visited s patterns disk) {n : Node} (hn : n ∈ v.nodes s) :
    n.isKept gone = keepsKey gone n.id ∧ (keepsKey gone n.id = true → keepsKey gone n.parent = true) := by
  obtain ⟨d, hd, hfolder⟩ := place_of_mem_visited hv
  obtain ⟨hne, hparts⟩ := names_of_mem_places (by decide) hnamed hd
  have habove : keepsKey gone (folderId v.parts.dropLast) = true := by
    apply keepsKey_folderId hnamed hgone
    exact (folder_above_of_mem_places hd).imp_right fun ⟨items, locked, hm⟩ => ⟨_, hm, rfl⟩
  have hfile := fileOf_relativeText hparts
  have hcolon := colon_not_mem_relativeText hparts
  cases v with
  | folder parts =>
    have hkept := keepsKey_folderId hnamed hgone (Or.inr ⟨d, hd, hfolder parts rfl⟩)
    simp only [Visit.parts] at hne hkept habove
    rw [List.mem_singleton.mp hn, folderNode]
    rw [folderId_of_ne_nil hne] at hkept
    exact ⟨hkept.symm, fun _ => habove⟩
  | file parts content =>
    simp only [Visit.parts] at habove hfile hcolon
    change n ∈ s.nodes parts content at hn
    unfold Source.nodes at hn
    split at hn
    · rcases List.mem_cons.mp hn with rfl | hn
      · refine ⟨?_, fun _ => habove⟩
        simp only [Node.isKept, fileNode, keepsKey, hfile]
      · -- a declaration and the node above it belong to the file
        obtain ⟨e, -, rfl⟩ := List.mem_map.mp hn
        have hid := fileOf_entityNodeId hcolon e
        have hparent : fileOf (entityParentId (relativeText parts) e) = relativeText parts := by
          unfold entityParentId
          cases e.parent with
          | none => exact hfile
          | some above => exact fileOf_append hcolon _
        refine ⟨?_, fun hkept => ?_⟩
        · simp only [Node.isKept, entityNode, keepsKey, hid]
        · simp only [entityNode, keepsKey, hid, hparent] at hkept ⊢
          exact hkept
    · cases hn

end Keys

/-! ## The graph of a scan -/

section Scanned

variable {s : Source} {patterns : List String} {disk : Entry}

/-- The nodes of a scan, in the order in which their keys are first put. -/
theorem bares_scan (s : Source) (patterns : List String) (disk : Entry) :
    (Graph.empty.applyAll (buildEdits s patterns disk).list).bares =
      ((visited s patterns disk).flatMap (Visit.nodes s)).foldl (fun entries n => Graph.putNode n.id n.bare entries)
        [(Graph.rootKey, .folder Graph.rootKey s.path.name none)] := by
  rw [list_buildEdits]
  exact Graph.bares_linkEdits (Graph.empty.put Graph.rootKey (.folder Graph.rootKey s.path.name none)) _

variable (hnamed : disk.named isPlainName = true) {gone : List String} (hgone : ∀ path ∈ gone, disk.HasFile path)

include hnamed hgone

/-- What holds of each node of a scan: the key is its identifier, it is kept if its key is, and then the node above it is
kept. -/
theorem keepsKey_of_mem_bares {entry : NodeId × Node}
    (h : entry ∈ (Graph.empty.applyAll (buildEdits s patterns disk).list).bares) :
    entry.2.id = entry.1 ∧ entry.2.isKept gone = keepsKey gone entry.1 ∧
      (keepsKey gone entry.1 = true → keepsKey gone entry.2.parent = true) := by
  rw [bares_scan] at h
  rcases Graph.mem_foldl_putNode h with h | ⟨n, hn, rfl⟩
  · rw [List.mem_singleton.mp h]
    exact ⟨rfl, (keepsKey_rootKey hnamed hgone).symm, fun _ => rfl⟩
  · obtain ⟨v, hv, hn⟩ := List.mem_flatMap.mp hn
    obtain ⟨hkept, hparent⟩ := keepsKey_of_mem_nodes hnamed hgone hv hn
    exact ⟨rfl, hkept, hparent⟩

/-- **The graph of a project without some files** has the nodes whose keys do not belong to the files, in the same
order. -/
theorem bares_scan_without :
    (Graph.empty.applyAll (buildEdits s patterns (disk.without gone [])).list).bares =
      (Graph.empty.applyAll (buildEdits s patterns disk).list).bares.filter fun entry => keepsKey gone entry.1 := by
  have hroot : ([(Graph.rootKey, Node.folder Graph.rootKey s.path.name none)] : List (NodeId × Node)).filter
      (fun entry => keepsKey gone entry.1) = [(Graph.rootKey, .folder Graph.rootKey s.path.name none)] := by
    simp [keepsKey_rootKey hnamed hgone]
  have hkept : ∀ n ∈ (visited s patterns disk).flatMap (Visit.nodes s), n.isKept gone = keepsKey gone n.id := by
    intro n hn
    obtain ⟨v, hv, hn⟩ := List.mem_flatMap.mp hn
    exact (keepsKey_of_mem_nodes hnamed hgone hv hn).1
  rw [bares_scan, bares_scan, nodes_visited_without, Graph.filter_foldl_putNode hkept, hroot]

end Scanned

/-! ## The rows of a scan -/

theorem Graph.rows_eq_bares (g : Graph) :
    g.rows = g.bares.filterMap fun entry => (NodeRow.ofNode? entry.2).toOption := by
  rw [rows_eq, bares, List.filterMap_map, List.filterMap_map]
  rfl

theorem toOption_ofNode?_eq_some {n : Node} {r : NodeRow} (h : (NodeRow.ofNode? n).toOption = some r) :
    NodeRow.ofNode? n = .ok r := by
  cases hn : NodeRow.ofNode? n with
  | error f =>
    rw [hn] at h
    cases h
  | ok r' =>
    rw [hn] at h
    exact congrArg Except.ok (Option.some.inj h)

/-- Rows can be left out before or after they are made of nodes, if this is decided by the keys. -/
theorem filterMap_ofNode?_filter (keep : NodeId → Bool) {entries : List (NodeId × Node)}
    (h : ∀ entry ∈ entries, entry.2.id = entry.1) :
    (entries.filter fun entry => keep entry.1).filterMap (fun entry => (NodeRow.ofNode? entry.2).toOption) =
      (entries.filterMap fun entry => (NodeRow.ofNode? entry.2).toOption).filter fun r => keep r.id := by
  induction entries with
  | nil => rfl
  | cons entry entries ih =>
    obtain ⟨hentry, hentries⟩ := List.forall_mem_cons.mp h
    rw [List.filter_cons]
    cases hrow : (NodeRow.ofNode? entry.2).toOption with
    | none =>
      split
      · simp only [List.filterMap_cons, hrow, ih hentries]
      · simp only [List.filterMap_cons, hrow, ih hentries]
    | some r =>
      have hid : r.id = entry.1 := (NodeRow.id_of_ofNode? (toOption_ofNode?_eq_some hrow)).trans hentry
      split
      · next hkeep => simp only [List.filterMap_cons, hrow, ih hentries, List.filter_cons, hid, hkeep, if_true]
      · next hkeep => simp only [List.filterMap_cons, hrow, ih hentries, List.filter_cons, hid, hkeep]; rfl

section Rows

variable {R : Type} {s : Source} {patterns : List String} {disk : Entry} (hnamed : disk.named isPlainName = true)
  {gone : List String} (hgone : ∀ path ∈ gone, disk.HasFile path)

include hnamed hgone

theorem rows_scan_without :
    (Graph.empty.applyAll (buildEdits s patterns (disk.without gone [])).list).rows =
      (Graph.empty.applyAll (buildEdits s patterns disk).list).rows.filter fun r => keepsKey gone r.id := by
  rw [Graph.rows_eq_bares, Graph.rows_eq_bares, bares_scan_without hnamed hgone]
  exact filterMap_ofNode?_filter _ fun entry hentry => (keepsKey_of_mem_bares hnamed hgone hentry).1

/-- A row of a scan is kept if its key is, and then the key of the node above it is kept. -/
theorem keepsKey_of_mem_rows {r : NodeRow} (hr : r ∈ (Graph.empty.applyAll (buildEdits s patterns disk).list).rows) :
    (∀ path, r.filePath = some path → (path ∈ gone ↔ keepsKey gone r.id = false)) ∧
      (r.filePath = none → keepsKey gone r.id = true) ∧
      (keepsKey gone r.id = true → keepsKey gone r.parent = true) := by
  rw [Graph.rows_eq_bares, List.mem_filterMap] at hr
  obtain ⟨entry, hentry, hrow⟩ := hr
  have hok := toOption_ofNode?_eq_some hrow
  obtain ⟨hid, hkept, hparent⟩ := keepsKey_of_mem_bares hnamed hgone hentry
  rw [NodeRow.id_of_ofNode? hok, NodeRow.filePath_of_ofNode? hok, NodeRow.parent_of_ofNode? hok, hid]
  refine ⟨fun path hpath => ?_, fun hpath => ?_, hparent⟩
  · rw [← hkept, Node.isKept, hpath]
    simp
  · rw [← hkept, Node.isKept, hpath]

/-- **To delete files from the rows of a scan** leaves the rows of the scan without the files. -/
theorem nodes_dropFiles {t : Tables R} (ht : t.nodes = (Graph.empty.applyAll (buildEdits s patterns disk).list).rows) :
    (t.dropFiles gone).nodes = (Graph.empty.applyAll (buildEdits s patterns (disk.without gone [])).list).rows := by
  rw [rows_scan_without hnamed hgone, ← ht]
  refine List.filter_congr fun r hr => ?_
  obtain ⟨hsome, hnone, -⟩ := keepsKey_of_mem_rows hnamed hgone (ht ▸ hr)
  -- a row whose identifier is one of the paths belongs to this file
  have hself : ∀ id, r.id = some id → id ∈ gone → keepsKey gone r.id = false := by
    intro id hid hmem
    rw [hid, keepsKey, fileOf_of_not_mem (colon_not_mem_of_gone hnamed hgone hmem)]
    simpa using hmem
  cases hkept : keepsKey gone r.id with
  | false =>
    cases hpath : r.filePath with
    | none => exact absurd (hnone hpath) (by simp [hkept])
    | some path => simp [(hsome path hpath).mpr hkept]
  | true =>
    have hother : ∀ path, r.filePath = some path → path ∉ gone := by
      intro path hpath hmem
      simp [(hsome path hpath).mp hmem] at hkept
    have hown : ∀ id, r.id = some id → id ∉ gone := by
      intro id hid hmem
      simp [hself id hid hmem] at hkept
    cases hpath : r.filePath <;> cases hid : r.id <;> simp_all

end Rows

/-! ## Deleting files one after another -/

namespace Store

variable {R : Type}

namespace Tables

theorem dropFiles_dropFiles (t : Tables R) (paths others : List String) :
    (t.dropFiles paths).dropFiles others = t.dropFiles (paths ++ others) := by
  unfold dropFiles
  simp only [List.filter_filter]
  congr 1
  · apply List.filter_congr
    intro r _
    cases r.filePath <;> cases r.id <;> simp [Bool.and_comm, Bool.and_assoc, Bool.and_left_comm]
  · apply List.filter_congr
    intro entry _
    simp [Bool.and_comm]

/-- Files that are deleted one after another are deleted at once. -/
theorem foldl_dropFiles (t : Tables R) (paths : List String) :
    paths.foldl (fun t path => t.dropFiles [path]) t = t.dropFiles paths := by
  induction paths generalizing t with
  | nil => exact (Tables.dropFiles_nil t).symm
  | cons path paths ih => rw [List.foldl_cons, ih, dropFiles_dropFiles, List.singleton_append]

/-- Neither the order of the files nor repetitions matter. -/
theorem dropFiles_congr (t : Tables R) {paths others : List String} (h : ∀ path, path ∈ paths ↔ path ∈ others) :
    t.dropFiles paths = t.dropFiles others := by
  have hcontains : paths.contains = others.contains := by
    funext path
    rw [Bool.eq_iff_iff, List.contains_iff_mem, List.contains_iff_mem, h]
  unfold dropFiles
  rw [hcontains]

end Tables

namespace Connection

/-- Files deleted one after another, up to the first failure. Each deletion may stay within its transaction. -/
def deleteEach (c : Connection R) : List (String × Bool) → Except Failure Unit × Connection R
  | [] => (.ok (), c)
  | (path, keep) :: rest =>
    match c.deleteFile path keep with
    | (.ok (), c) => c.deleteEach rest
    | (.error f, c) => (.error f, c)

/-- **Files are deleted one after another without failure**, if the connection is open. -/
theorem deleteEach_of_isOpen {c : Connection R} (hopen : c.isOpen = true) (order : List (String × Bool)) :
    ∃ c', c.deleteEach order = (.ok (), c') ∧ c'.view = c.view.dropFiles (order.map (·.1)) := by
  have hall : ∃ c', c.deleteEach order = (.ok (), c') ∧
      c'.view = (order.map (·.1)).foldl (fun t path => t.dropFiles [path]) c.view := by
    induction order generalizing c with
    | nil => exact ⟨c, rfl, rfl⟩
    | cons first rest ih =>
      obtain ⟨path, keep⟩ := first
      have hfirst : c.deleteFile path keep =
          (.ok (), if keep then (c.write (·.dropFiles [path])).commit else c.write (·.dropFiles [path])) := by
        rw [deleteFile, change, if_pos hopen]
      rw [deleteEach, hfirst]
      cases keep with
      | true => exact ih (c := (c.write (·.dropFiles [path])).commit) hopen
      | false => exact ih (c := c.write (·.dropFiles [path])) hopen
  simpa only [Tables.foldl_dropFiles] using hall

end Connection

end Store

/-! ## Failures -/

section Failures

variable {s : Source} {patterns : List String} {gone : List String}

/-- If a scan comes to nothing, whether it fails at an item is decided by the name. -/
theorem failure_scanItem_of_omits (homits : ∀ q, s.omits patterns q = true) (parts : List String) (parent : NodeId)
    (name : String) (e d : Entry) :
    (scanItem s patterns parts parent name e).failure = (scanItem s patterns parts parent name d).failure := by
  have hnot := homits (parts ++ [name])
  unfold scanItem
  cases e <;> cases d <;> simp only <;> cases hexcluded : isExcluded patterns (s.absolute (parts ++ [name])) with
    | error failure => rfl
    | ok b =>
      rw [omits_of_ok hexcluded] at hnot
      rw [hnot]

theorem failure_andThen_eq_none_iff {a : Edits} {b : Unit → Edits} :
    (a.andThen b).failure = none ↔ a.failure = none ∧ (b ()).failure = none := by
  unfold Edits.andThen
  cases ha : a.failure with
  | none => simp
  | some failure => simp [ha]

theorem failure_scanItems_without (homits : ∀ q, s.omits patterns q = true) {parts : List String} {parent : NodeId}
    {items : List (String × Entry)} (h : (scanItems s patterns parts parent items).failure = none) :
    (scanItems s patterns parts parent (itemsWithout gone parts items)).failure = none := by
  induction items with
  | nil => exact h
  | cons item items ih =>
    obtain ⟨name, e⟩ := item
    unfold scanItems at h
    obtain ⟨hfirst, hrest⟩ := failure_andThen_eq_none_iff.mp h
    rw [itemsWithout]
    split
    · exact ih hrest
    · unfold scanItems
      rw [failure_andThen_eq_none_iff, failure_scanItem_of_omits homits parts parent name _ e]
      exact ⟨hfirst, ih hrest⟩

/-- A scan that does not fail does not fail without some files. -/
theorem failure_buildEdits_without {disk : Entry} (h : (buildEdits s patterns disk).failure = none) :
    (buildEdits s patterns (disk.without gone [])).failure = none := by
  unfold buildEdits at h ⊢
  generalize (if patterns.isEmpty then defaultExcludes else patterns) = used at h ⊢
  rw [Edits.andThen_of_ok rfl] at h ⊢
  cases disk with
  | file content locked => exact h
  | folder items locked =>
    rw [Entry.listing?] at h
    rw [Entry.without, Entry.listing?]
    by_cases hlocked : (s.asUser && locked) = true
    · rw [if_pos hlocked]
      rfl
    · rw [if_neg hlocked] at h ⊢
      -- a scan that comes to something does not fail at all
      rcases (list_scanItems (itemsWithout gone [] items) []).2 with hok | homits
      · exact hok
      · exact failure_scanItems_without homits h

end Failures

/-! ## Deleting files from the store -/

section Deleted

variable {R : Type} {s : Source} {patterns : List String} {disk : Entry} (hnamed : disk.named isPlainName = true)
  {gone : List String} (hgone : ∀ path ∈ gone, disk.HasFile path)

include hnamed hgone

/-- If the graph of a project can be saved, so can that of the project without some files. -/
theorem saveGraph_without {c saved : Connection R}
    (hsave : c.saveGraph (Graph.empty.applyAll (buildEdits s patterns disk).list) = (.ok (), saved)) :
    ∃ never, c.saveGraph (Graph.empty.applyAll (buildEdits s patterns (disk.without gone [])).list) = (.ok (), never) ∧
      never.view.nodes = (Graph.empty.applyAll (buildEdits s patterns (disk.without gone [])).list).rows := by
  obtain ⟨rows, hrows, hopen, hpending, rfl⟩ := Connection.eq_withNodes_of_saveGraph hsave
  have howned := owned_applyAll_buildEdits s patterns (disk.without gone [])
  have hbares : (Graph.empty.applyAll (buildEdits s patterns (disk.without gone [])).list).bares = _ :=
    bares_scan_without hnamed hgone
  generalize Graph.empty.applyAll (buildEdits s patterns (disk.without gone [])).list = g' at howned hbares ⊢
  have hstored : storeRows [] (g'.nodes.map (·.2)) = .ok g'.rows := by
    refine storeRows_eq ?_ ?_ (by simp)
    · -- without its children, a node of the smaller graph is a node of the larger one
      intro n hn
      obtain ⟨entry, hentry, rfl⟩ := List.mem_map.mp hn
      have hbare : (entry.1, entry.2.bare) ∈ g'.bares := List.mem_map_of_mem hentry
      rw [hbares] at hbare
      obtain ⟨old, hold, heq⟩ := List.mem_map.mp (List.mem_filter.mp hbare).1
      have hok : NodeRow.ofNode? old.2 ∈ rows.map .ok := by
        rw [← storeRows_eq_ok hrows, List.map_map]
        exact List.mem_map_of_mem (f := fun entry => NodeRow.ofNode? entry.2) hold
      obtain ⟨r, -, hr⟩ := List.mem_map.mp hok
      refine ⟨r, ?_⟩
      rw [← Node.ofNode?_bare, ← (Prod.mk.inj heq).2, Node.ofNode?_bare, hr]
    · rw [List.map_map]
      exact howned.map_id ▸ howned.distinct
  refine ⟨{ c with committed := c.committed.withNodes g'.rows }, ?_, ?_⟩
  · rw [Connection.saveGraph_eq, if_pos hopen, hpending]
    simp only
    rw [hstored]
  · have hview : ({ c with committed := c.committed.withNodes g'.rows } : Connection R).view =
        c.committed.withNodes g'.rows := Connection.view_of_pending_eq_none hpending
    rw [hview]
    rfl

/-- **Deleting files equals never having had them.** A project without colons in its paths was scanned and its graph is
saved. Then the graph of the project without some of its files can be saved as well. If the files are few enough to be
deleted at once, or if they are deleted one by one in any order, this succeeds, and the table of nodes is row for row
the table of the project without the files. No row that is left names a deleted one as the node above. -/
theorem deleted_eq_never_scanned (hscan : (buildEdits s patterns disk).failure = none) {c saved : Connection R}
    (hsave : c.saveGraph (Graph.empty.applyAll (buildEdits s patterns disk).list) = (.ok (), saved)) :
    let left := buildEdits s patterns (disk.without gone [])
    left.failure = none ∧ ∃ never, c.saveGraph (Graph.empty.applyAll left.list) = (.ok (), never) ∧
      (2 * gone.length ≤ c.limits.maxVariables → ∀ compacted, ∃ after,
        saved.deleteFiles gone compacted = (.ok (), after) ∧ after.view.nodes = never.view.nodes) ∧
      (∀ order : List (String × Bool), (∀ path, path ∈ order.map (·.1) ↔ path ∈ gone) → ∃ after,
        saved.deleteEach order = (.ok (), after) ∧ after.view.nodes = never.view.nodes) ∧
      ∀ r ∈ never.view.nodes, ∀ deleted ∈ saved.view.nodes, deleted ∉ never.view.nodes → r.parent ≠ deleted.id := by
  intro left
  obtain ⟨never, hnever, hnodes⟩ := saveGraph_without hnamed hgone hsave
  refine ⟨failure_buildEdits_without hscan, never, hnever, ?_⟩
  obtain ⟨rows, hrows, hopen, hpending, rfl⟩ := Connection.eq_withNodes_of_saveGraph hsave
  have hview : ({ c with committed := c.committed.withNodes rows } : Connection R).view = c.committed.withNodes rows :=
    Connection.view_of_pending_eq_none hpending
  have hsaved : (c.committed.withNodes rows).nodes = (Graph.empty.applyAll (buildEdits s patterns disk).list).rows :=
    rows_of_storeRows hrows
  have hdropped := nodes_dropFiles hnamed hgone hsaved
  refine ⟨fun hfew compacted => ?_, fun order horder => ?_, fun r hr deleted hdeleted hnot heq => ?_⟩
  · rw [Connection.deleteFiles_eq_ite]
    by_cases hnone : gone = []
    · refine ⟨_, by rw [hnone]; rfl, ?_⟩
      rw [hview, hnodes, ← hdropped, hnone, Tables.dropFiles_nil]
    · rw [if_neg (by simpa using hnone), if_pos hopen, hpending]
      simp only
      rw [if_neg (by omega)]
      refine ⟨_, rfl, ?_⟩
      rw [hnodes, ← hdropped]
      rfl
  · have heach := Connection.deleteEach_of_isOpen (c := { c with committed := c.committed.withNodes rows }) hopen order
    obtain ⟨after, hafter, hafterView⟩ := heach
    refine ⟨after, hafter, ?_⟩
    rw [hafterView, hview, Tables.dropFiles_congr _ horder, hnodes, ← hdropped]
  · -- the row that is left is kept with the node above it, and the deleted one is not kept
    rw [hview, hsaved] at hdeleted
    rw [hnodes, rows_scan_without hnamed hgone, List.mem_filter] at hr hnot
    have hparent := (keepsKey_of_mem_rows hnamed hgone hr.1).2.2 hr.2
    rw [heq] at hparent
    exact hnot ⟨hdeleted, hparent⟩

end Deleted

namespace Sample

/-- Two files in a directory and one beside it. -/
def library : Entry :=
  folder [("a.py", file "fetch load"), ("lib", folder [("b.py", file "save save"), ("c.py", file "load")])]

end Sample

/-- Two of three files are deleted, one of them twice: the directory, the third file and its function are left, as if the
two files had never been there. -/
theorem deleted_sample_library :
    ∃ saved never after : Connection Float,
      ({} : Connection Float).saveGraph (Graph.empty.applyAll (buildEdits Sample.words [] Sample.library).list) =
        (.ok (), saved) ∧
      ({} : Connection Float).saveGraph (Graph.empty.applyAll (buildEdits Sample.words []
        (Sample.library.without ["lib/b.py", "a.py", "lib/b.py"] [])).list) = (.ok (), never) ∧
      saved.deleteFiles ["lib/b.py", "a.py", "lib/b.py"] true = (.ok (), after) ∧
      after.view.nodes = never.view.nodes ∧
      after.view.nodes.map (·.id) = [some ".", some "lib", some "lib/c.py", some "lib/c.py:load"] := by
  have hfiles : ∀ path ∈ ["lib/b.py", "a.py", "lib/b.py"], Sample.library.HasFile path := by decide
  have hwell : Sample.endsWell (({} : Connection Float).saveGraph
      (Graph.empty.applyAll (buildEdits Sample.words [] Sample.library).list)).1 = true := by
    decide +kernel
  obtain ⟨⟨⟩, hok⟩ := Sample.exists_of_endsWell hwell
  obtain ⟨-, never, hnever, hatOnce, -, -⟩ :=
    deleted_eq_never_scanned (by decide) hfiles (failure_buildEdits _ _) (Prod.ext hok rfl)
  obtain ⟨after, hafter, hnodes⟩ := hatOnce (by decide) true
  refine ⟨_, never, after, Prod.ext hok rfl, hnever, hafter, hnodes, ?_⟩
  have hleft : (({} : Connection Float).saveGraph (Graph.empty.applyAll (buildEdits Sample.words []
      (Sample.library.without ["lib/b.py", "a.py", "lib/b.py"] [])).list)).2.view.nodes.map (·.id) =
        [some ".", some "lib", some "lib/c.py", some "lib/c.py:load"] := by
    decide +kernel
  rw [hnodes, ← hleft, hnever]

end CodeAtlas
