import Mathlib
import CodeAtlas.Proofs.Project.Children

/-!
# The paths of a graph

The identifier of a directory or a file is a path, and that of a declaration has a colon. What a graph says about paths
does not hang on the declarations: without the declarations, in its nodes and in the lists of children, a graph is one
that has grown from the same files read as empty trees. Such a graph is regular, whatever the names of declarations are.
So the paths in a list of children are always listed once, and have nodes that name the node with the list as the node
above them.

## Main definitions

* `isPath`: identifiers without a colon
* `Graph.paths`: a graph without its declarations
* `Growth.muted`: a step without its declarations
* `Graph.Filed`: the paths are regular, and declarations belong to the file of the node above them

## Main results

* `Graph.paths_applyAll`: to leave out declarations before and after some edits
* `Graph.paths_grow`: the same for a step
* `Graph.Filed.growAll`: a graph stays filed while it grows
-/

namespace CodeAtlas

/-- Whether an identifier is a path and not that of a declaration. -/
def isPath (k : NodeId) : Bool :=
  k.all fun id => !Text.hasChar ':' id

theorem isPath_some_iff {id : String} : isPath (some id) = true ↔ ':' ∉ id.toList := by
  simp [isPath, Text.hasChar]

theorem isPath_entityNodeId (rel : String) (e : Entity) : isPath (some (entityNodeId rel e)) = false := by
  obtain ⟨rest, hrest⟩ := entityNodeId_eq rel e
  simp [isPath, Text.hasChar, hrest]

/-- A node that lists paths only. -/
def Node.listingPaths (n : Node) : Node :=
  { n with children := n.children.filter isPath }

theorem Node.listingPaths_of_children_eq_nil {n : Node} (h : n.children = []) : n.listingPaths = n := by
  rw [listingPaths, h, List.filter_nil, ← h]

/-- Whether an edit is about a path. -/
def Edit.isPath : Edit → Bool
  | .put key _ => CodeAtlas.isPath key
  | .attach _ child => CodeAtlas.isPath child
  | .detach _ child => CodeAtlas.isPath child
  | .erase key => CodeAtlas.isPath key

namespace Graph

/-! ## Leaving out declarations -/

/-- What is left of a node under a key when declarations are left out. -/
def path? (x : NodeId × Node) : Option (NodeId × Node) :=
  if isPath x.1 then some (x.1, x.2.listingPaths) else none

/-- The graph without its declarations. -/
def paths (g : Graph) : Graph :=
  ⟨g.nodes.filterMap path?⟩

variable (g : Graph)

theorem find?_paths {k : NodeId} (hk : isPath k = true) : g.paths.find? k = (g.find? k).map Node.listingPaths := by
  obtain ⟨nodes⟩ := g
  rw [paths, find?_mk, find?_mk]
  induction nodes with
  | nil => rfl
  | cons x nodes ih =>
    obtain ⟨j, n⟩ := x
    by_cases hj : k = j
    · subst hj
      simp [path?, hk]
    · by_cases hpath : isPath j = true <;> simp [path?, hpath, List.lookup_cons, beq_false_of_ne hj, ih]

theorem contains_paths {k : NodeId} (hk : isPath k = true) : g.paths.contains k = g.contains k := by
  rw [contains, contains, find?_paths g hk, Option.isSome_map]

theorem paths_put_of_isPath {key : NodeId} (hkey : isPath key = true) (n : Node) :
    (g.put key n).paths = g.paths.put key n.listingPaths := by
  obtain ⟨nodes⟩ := g
  simp only [put, paths, mk.injEq]
  induction nodes with
  | nil => simp [putNode, path?, hkey]
  | cons x nodes ih =>
    obtain ⟨k, m⟩ := x
    rw [putNode]
    by_cases hk : k = key
    · simp [path?, hk, hkey, putNode]
    · by_cases hpath : isPath k = true <;> simp [path?, hk, hpath, putNode, ih]

theorem paths_put_of_not_isPath {key : NodeId} (hkey : isPath key = false) (n : Node) :
    (g.put key n).paths = g.paths := by
  obtain ⟨nodes⟩ := g
  simp only [put, paths, mk.injEq]
  induction nodes with
  | nil => simp [putNode, path?, hkey]
  | cons x nodes ih =>
    obtain ⟨k, m⟩ := x
    rw [putNode]
    by_cases hk : k = key
    · simp [path?, hk, hkey]
    · by_cases hpath : isPath k = true <;> simp [path?, hk, hpath, ih]

theorem paths_modifyChildren {f h : List NodeId → List NodeId}
    (hf : ∀ children, (f children).filter isPath = h (children.filter isPath)) (key : NodeId) :
    (g.modifyChildren key f).paths = g.paths.modifyChildren key h := by
  simp only [modifyChildren, modify, paths, List.filterMap_map, List.map_filterMap, mk.injEq]
  refine List.filterMap_congr fun x _ => ?_
  by_cases hk : x.1 = key <;> by_cases hpath : isPath x.1 = true <;>
    simp_all [path?, Node.listingPaths]

theorem paths_erase (key : NodeId) : (g.erase key).paths = g.paths.erase key := by
  simp only [erase, paths, List.filterMap_filter, List.filter_filterMap, mk.injEq]
  refine List.filterMap_congr fun x _ => ?_
  by_cases hpath : isPath x.1 = true
  · rw [path?, if_pos hpath]
    by_cases hk : x.1 = key <;> simp [hk, Option.filter]
  · simp [path?, hpath]

theorem erase_paths_of_not_isPath {key : NodeId} (hkey : isPath key = false) : g.paths.erase key = g.paths := by
  simp only [erase, paths, List.filter_filterMap, mk.injEq]
  refine List.filterMap_congr fun x _ => ?_
  by_cases hpath : isPath x.1 = true
  · have hk : x.1 ≠ key := by
      rintro rfl
      rw [hpath] at hkey
      cases hkey
    simp [path?, hpath, hk, Option.filter]
  · simp [path?, hpath]

theorem modifyChildren_id (key : NodeId) : g.modifyChildren key id = g := by
  obtain ⟨nodes⟩ := g
  simp [modifyChildren, modify]

/-- An edit about a path, which puts no node with children, does the same when declarations are left out. -/
theorem paths_apply_of_isPath {e : Edit} (hpath : e.isPath = true) (he : ∀ k n, e = .put k n → n.children = []) :
    (g.apply e).paths = g.paths.apply e := by
  cases e with
  | put key n =>
    rw [apply, paths_put_of_isPath g hpath, Node.listingPaths_of_children_eq_nil (he key n rfl)]
    rfl
  | attach parent child =>
    have hchild : isPath child = true := hpath
    have hkept : ∀ children : List NodeId, (children ++ [child]).filter isPath = children.filter isPath ++ [child] := by
      simp [hchild]
    exact paths_modifyChildren g (h := (· ++ [child])) hkept parent
  | detach parent child =>
    exact paths_modifyChildren g (h := (·.erase child)) (fun _ => List.erase_filter.symm) parent
  | erase key => exact paths_erase g key

/-- An edit about a declaration does nothing when declarations are left out. -/
theorem paths_apply_of_not_isPath {e : Edit} (hpath : e.isPath = false) : (g.apply e).paths = g.paths := by
  cases e with
  | put key n => exact paths_put_of_not_isPath g hpath n
  | attach parent child =>
    have hchild : isPath child = false := hpath
    have hkept : ∀ children : List NodeId, (children ++ [child]).filter isPath = id (children.filter isPath) := by
      simp [hchild]
    rw [apply, paths_modifyChildren g hkept parent, modifyChildren_id]
  | detach parent child =>
    have hchild : isPath child = false := hpath
    have hkept : ∀ children : List NodeId, (children.erase child).filter isPath = id (children.filter isPath) := by
      intro children
      rw [← List.erase_filter, List.erase_of_not_mem (by simp [hchild]), id]
    rw [apply, paths_modifyChildren g hkept parent, modifyChildren_id]
  | erase key => rw [apply, paths_erase, erase_paths_of_not_isPath g hpath]

/-- **To leave out declarations before and after some edits**, which put no nodes with children. -/
theorem paths_applyAll {es : List Edit} (hes : ∀ k n, .put k n ∈ es → n.children = []) :
    (g.applyAll es).paths = g.paths.applyAll (es.filter Edit.isPath) := by
  induction es generalizing g with
  | nil => rfl
  | cons e es ih =>
    have hrest : ∀ k n, .put k n ∈ es → n.children = [] := fun k n hm => hes k n (List.mem_cons_of_mem _ hm)
    change ((g.apply e).applyAll es).paths = _
    rw [ih (g.apply e) hrest]
    cases hpath : e.isPath with
    | true =>
      rw [List.filter_cons_of_pos hpath,
        paths_apply_of_isPath g hpath fun k n heq => hes k n (heq ▸ List.mem_cons_self)]
      rfl
    | false => rw [List.filter_cons_of_neg (by simp [hpath]), paths_apply_of_not_isPath g hpath]

/-! ## Removing and putting files and directories -/

/-- Whether a node under a key belongs to a file. -/
def isOf (rel : String) (x : NodeId × Node) : Bool :=
  x.2.filePath == some rel || x.1 == some rel

/-- The edits that remove a node under a key. -/
def removal (x : NodeId × Node) : List Edit :=
  (x.2.parent?.map fun p => Edit.detach (some p) x.1).toList ++ [.erase x.1]

theorem removeFile_eq (rel : String) : g.removeFile rel = (g.nodes.filter (isOf rel)).flatMap removal := by
  refine List.flatMap_congr fun x _ => ?_
  obtain ⟨k, n⟩ := x
  cases hparent : n.parent? <;> simp only [removal, hparent] <;> rfl

theorem put_not_mem_removeFile (rel : String) (k : NodeId) (n : Node) : .put k n ∉ g.removeFile rel := by
  intro hm
  rcases mem_removeFile hm with ⟨parent, child, heq⟩ | ⟨i, heq⟩ <;> cases heq

theorem filter_removal (x : NodeId × Node) :
    (removal x).filter Edit.isPath = if isPath x.1 then removal x else [] := by
  rw [removal]
  cases x.2.parent? <;> cases hpath : isPath x.1 <;> simp [Edit.isPath, hpath]

/-- To remove a file, with and without declarations. -/
theorem filter_removeFile (rel : String) : (g.removeFile rel).filter Edit.isPath = g.paths.removeFile rel := by
  obtain ⟨nodes⟩ := g
  rw [removeFile_eq, removeFile_eq, paths]
  induction nodes with
  | nil => rfl
  | cons x nodes ih =>
    have hkept : isOf rel (x.1, x.2.listingPaths) = isOf rel x := rfl
    have hsame : removal (x.1, x.2.listingPaths) = removal x := rfl
    cases hpath : isPath x.1 <;> cases hfile : isOf rel x <;>
      simp [path?, hpath, hfile, hkept, hsame, filter_removal, ih]

theorem filter_addFoldersFrom {above : String} {todo : List String} (habove : ':' ∉ above.toList)
    (htodo : ∀ part ∈ todo, ':' ∉ part.toList) (parent : NodeId) :
    (g.addFoldersFrom parent above todo).filter Edit.isPath = g.paths.addFoldersFrom parent above todo := by
  induction todo generalizing g parent above with
  | nil => rfl
  | cons part todo ih =>
    obtain ⟨hpart, htodo⟩ := List.forall_mem_cons.mp htodo
    rw [addFoldersFrom, addFoldersFrom]
    generalize hhere : (if above.isEmpty then part else above ++ "/" ++ part) = here
    have hcolon : ':' ∉ here.toList := by
      subst hhere
      split <;> simp [habove, hpart]
    have hpath : isPath (some here) = true := isPath_some_iff.mpr hcolon
    rw [contains_paths g hpath]
    split
    · exact ih g hcolon htodo _
    · simp only [List.filter_cons, Edit.isPath, hpath, if_true]
      rw [ih _ hcolon htodo, paths_put_of_isPath g hpath, Node.listingPaths_of_children_eq_nil rfl]

end Graph

/-- The nodes that are put for paths. -/
theorem filter_linkEdits (ns : List Node) :
    (linkEdits ns).filter Edit.isPath = linkEdits (ns.filter fun n => isPath n.id) := by
  induction ns with
  | nil => rfl
  | cons n ns ih =>
    change (.put n.id n :: .attach n.parent n.id :: linkEdits ns : List Edit).filter Edit.isPath = _
    cases hpath : isPath n.id with
    | true =>
      simp only [List.filter_cons, Edit.isPath, hpath, if_true, ih]
      rfl
    | false => simp [Edit.isPath, hpath, ih]

/-! ## Steps without declarations -/

/-- The project with every text read as a tree without declarations. -/
def Source.muted (s : Source) : Source :=
  { s with read := fun _ _ => .node "" "" 0 0 [] }

theorem outline_muted (s : Source) (l : Language) (file : Path) (content : Option ByteArray) :
    l.outline s.muted.read file content = { l.outline s.read file content with entities := [] } := by
  unfold Language.outline
  cases content.bind String.fromUTF8? with
  | none => rfl
  | some text => simp [Language.outlineText, Language.entities, Source.muted, Language.walkChildren, Language.walkList]

theorem entities_muted (s : Source) (file : Path) (content : Option ByteArray) :
    s.muted.entities file content = [] := by
  unfold Source.entities
  generalize Language.forPath? file = l?
  cases l? with
  | none => rfl
  | some l => simp only [outline_muted]

/-- Of the nodes of a file, that of the file itself is the only path. -/
theorem filter_fileNodes {rel : String} (hrel : ':' ∉ rel.toList) (file : Path) (parent : NodeId) (l : Language)
    (o : Outline) : ((fileNodes file rel parent l o).filter fun n => isPath n.id) =
      fileNodes file rel parent l { o with entities := [] } := by
  have hnone : ((o.entities.map (entityNode rel)).filter fun n => isPath n.id) = [] := by
    rw [List.filter_eq_nil_iff, List.forall_mem_map]
    intro e _ hpath
    exact Bool.false_ne_true ((isPath_entityNodeId rel e).symm.trans hpath)
  have hpath : isPath (fileNode file rel parent l o).id = true := isPath_some_iff.mpr hrel
  simp only [fileNodes, List.filter_cons, hpath, if_true, hnone]
  rfl

section Scan

variable (s : Source) (patterns : List String)

mutual

theorem visitsBelow_muted : ∀ (e : Entry) (parts : List String),
    visitsBelow s.muted patterns parts e = visitsBelow s patterns parts e
  | .file content locked, parts => by
    rw [visitsBelow, visitsBelow]
    rfl
  | .folder items locked, parts => by
    rw [visitsBelow, visitsBelow, visitsAmong_muted items parts]
    rfl

theorem visitsAmong_muted : ∀ (items : List (String × Entry)) (parts : List String),
    visitsAmong s.muted patterns parts items = visitsAmong s patterns parts items
  | [], parts => by rw [visitsAmong, visitsAmong]
  | (name, e) :: rest, parts => by
    rw [visitsAmong, visitsAmong, visitsBelow_muted e (parts ++ [name]), visitsAmong_muted rest parts]

end

theorem visited_muted (disk : Entry) : visited s.muted patterns disk = visited s patterns disk := by
  have huser : s.muted.asUser = s.asUser := rfl
  unfold visited
  rw [huser]
  cases disk.listing? s.asUser with
  | none => rfl
  | some items => exact visitsAmong_muted s _ items []

end Scan

/-- The nodes of what a scan comes to, with and without declarations. -/
theorem Visit.nodes_muted {s : Source} {v : Visit} (hparts : ∀ n ∈ v.parts, isPlainName n = true) :
    ((v.nodes s).filter fun n => isPath n.id) = v.nodes s.muted := by
  have hcolon := colon_not_mem_relativeText hparts
  cases v with
  | folder parts =>
    have hpath : isPath (folderNode parts).id = true := isPath_some_iff.mpr hcolon
    simp only [nodes, List.filter_cons, hpath, if_true, List.filter_nil]
  | file parts content =>
    change ((s.nodes parts content).filter fun n => isPath n.id) = s.muted.nodes parts content
    have hfile : s.muted.absolute parts = s.absolute parts := rfl
    unfold Source.nodes
    rw [hfile]
    generalize Language.forPath? (s.absolute parts) = l?
    cases l? with
    | none => rfl
    | some l =>
      simp only [outline_muted]
      exact filter_fileNodes hcolon _ _ l _

/-- The edits of a scan, with and without declarations. -/
theorem filter_buildEdits {s : Source} {disk : Entry} (hnamed : disk.named isPlainName = true) (patterns : List String) :
    (buildEdits s patterns disk).list.filter Edit.isPath = (buildEdits s.muted patterns disk).list := by
  have hroot : isPath Graph.rootKey = true := isPath_some_iff.mpr (by decide)
  rw [list_buildEdits, list_buildEdits, visited_muted]
  simp only [List.filter_cons, Edit.isPath, hroot, if_true, filter_linkEdits, List.filter_flatMap]
  rw [List.flatMap_congr fun v hv => Visit.nodes_muted (parts_of_mem_visited hnamed hv).2]
  rfl

namespace Graph

/-- The edits that add a file, with and without declarations. -/
theorem filter_addFile (g : Graph) (s : Source) (disk : Entry) (parts : List String) (file : Path) {rel : String}
    {parent : NodeId} (hrel : ':' ∉ rel.toList) (hparent : isPath parent = true) :
    (g.addFile s disk parts file rel parent).list.filter Edit.isPath =
      (g.paths.addFile s.muted disk parts file rel parent).list := by
  have hpath : isPath (some rel) = true := isPath_some_iff.mpr hrel
  have hremoved : ∀ k n, .put k n ∈ g.removeFile rel → n.children = [] :=
    fun k n hm => absurd hm (g.put_not_mem_removeFile rel k n)
  -- whether the file can be put hangs on the directory, which is a path
  have hthere : (g.paths.applyAll (g.paths.removeFile rel)).contains parent =
      (g.applyAll (g.removeFile rel)).contains parent := by
    rw [← filter_removeFile, ← paths_applyAll g hremoved, contains_paths _ hparent]
  unfold addFile
  cases Language.forPath? file with
  | none => exact filter_removeFile g rel
  | some l =>
    simp only [hthere, outline_muted]
    split
    · simp only [Edits.ofList, List.filter_append, filter_removeFile, fileEdits_eq_linkEdits, filter_linkEdits,
        filter_fileNodes hrel]
      rfl
    · simp only [List.filter_append, filter_removeFile, List.filter_cons, Edit.isPath, hpath, if_true, List.filter_nil]
      rfl

end Graph

theorem Growth.hasPlainPaths_folders_iff {rel : String} :
    (folders rel).hasPlainPaths = true ↔ (Path.ofString rel).root = "" ∧ ':' ∉ rel.toList := by
  simp [hasPlainPaths, Text.hasChar]

theorem Growth.hasPlainPaths_add_iff {s : Source} {disk : Entry} {rel : String} :
    (add s disk rel).hasPlainPaths = true ↔ ':' ∉ rel.toList := by
  simp [hasPlainPaths, Text.hasChar]

/-- A step without declarations. -/
def Growth.muted : Growth → Growth
  | .build s patterns disk => .build s.muted patterns disk
  | .folders rel => .folders rel
  | .add s disk rel => .add s.muted disk rel

/-- A step without declarations finds none. -/
theorem Growth.plain_muted {step : Growth} (hstep : step.hasPlainPaths = true) : step.muted.Plain := by
  cases step with
  | build s patterns disk =>
    refine ⟨hstep, fun e he => ?_⟩
    obtain ⟨v, -, he⟩ := List.mem_flatMap.mp he
    cases v with
    | folder parts => cases he
    | file parts content =>
      rw [Visit.entities, entities_muted] at he
      cases he
  | folders rel => exact ⟨hstep, List.forall_mem_nil _⟩
  | add s disk rel =>
    refine ⟨hstep, fun e he => ?_⟩
    simp only [muted, entities, entities_muted] at he
    cases he

/-! ## Nodes and their files -/

/-- A node under a key that belongs to a declaration: its file is the one that its key tells, and so is the file that the
key of the node above tells. -/
def Node.Filed (k : NodeId) (n : Node) : Prop :=
  isPath k = false → n.filePath = k.map fileOf ∧ n.parent.map fileOf = k.map fileOf

theorem Node.filed_of_isPath {k : NodeId} (hk : isPath k = true) (n : Node) : n.Filed k := by
  intro hnot
  rw [hk] at hnot
  cases hnot

theorem filed_entityNode {rel : String} (hrel : ':' ∉ rel.toList) (e : Entity) :
    (entityNode rel e).Filed (entityNode rel e).id := by
  have hparent : fileOf (entityParentId rel e) = rel := by
    unfold entityParentId
    split
    · exact fileOf_append hrel _
    · exact fileOf_of_not_mem hrel
  intro _
  have hid := fileOf_entityNodeId hrel e
  exact ⟨congrArg some hid.symm, congrArg some (hparent.trans hid.symm)⟩

theorem filed_of_mem_fileNodes {rel : String} (hrel : ':' ∉ rel.toList) {file : Path} {parent : NodeId} {l : Language}
    {o : Outline} : ∀ n ∈ fileNodes file rel parent l o, n.Filed n.id := by
  intro n hn
  rcases List.mem_cons.mp hn with rfl | hn
  · exact Node.filed_of_isPath (isPath_some_iff.mpr hrel) _
  · obtain ⟨e, -, rfl⟩ := List.mem_map.mp hn
    exact filed_entityNode hrel e

theorem Visit.children_of_mem_nodes {s : Source} {v : Visit} {n : Node} (hn : n ∈ v.nodes s) : n.children = [] := by
  cases v with
  | folder parts =>
    rw [List.mem_singleton.mp hn]
    rfl
  | file parts content =>
    change n ∈ s.nodes parts content at hn
    unfold Source.nodes at hn
    split at hn
    · exact (fresh_of_mem_fileNodes n hn).1
    · cases hn

theorem Visit.filed_of_mem_nodes {s : Source} {v : Visit} (hparts : ∀ n ∈ v.parts, isPlainName n = true) :
    ∀ n ∈ v.nodes s, n.Filed n.id := by
  have hcolon := colon_not_mem_relativeText hparts
  intro n hn
  rcases Visit.id_of_mem_nodes hn with hid | ⟨e, rfl⟩
  · have hpath : isPath n.id = true := hid ▸ isPath_some_iff.mpr hcolon
    exact Node.filed_of_isPath hpath n
  · exact filed_entityNode hcolon e

theorem Path.colon_not_mem_folders {rel : String} (hroot : (ofString rel).root = "") (hrel : ':' ∉ rel.toList) :
    ∀ part ∈ (ofString rel).allParts.dropLast, ':' ∉ part.toList := by
  intro part hpart hcolon
  rw [allParts, hroot] at hpart
  exact hrel (mem_of_mem_components (List.mem_of_mem_dropLast hpart) hcolon)

/-- The text of the path above a path without a colon has none. -/
theorem Path.colon_not_mem_parent {rel : String} (hrel : ':' ∉ rel.toList) :
    ':' ∉ (ofString rel).parent.toString.toList := by
  have hparts : ':' ∉ (relativeText (ofString rel).parts.dropLast).toList :=
    colon_not_mem_relativeText_of_components fun n hn hcolon =>
      hrel (mem_of_mem_components (List.mem_of_mem_dropLast hn) hcolon)
  have hroot : ':' ∉ (ofString rel).root.toList := by
    rw [ofString]
    simp only
    split
    · decide
    · split <;> decide
  rw [toString]
  split
  · decide
  · rw [String.toList_append, List.mem_append]
    exact fun h => h.elim hroot hparts

namespace Graph

theorem put_mem_addFoldersFrom_isPath {g : Graph} {above : String} {todo : List String} (habove : ':' ∉ above.toList)
    (htodo : ∀ part ∈ todo, ':' ∉ part.toList) {parent k : NodeId} {n : Node}
    (h : .put k n ∈ g.addFoldersFrom parent above todo) : n.children = [] ∧ isPath k = true := by
  induction todo generalizing g parent above with
  | nil => cases h
  | cons part todo ih =>
    obtain ⟨hpart, htodo⟩ := List.forall_mem_cons.mp htodo
    rw [addFoldersFrom] at h
    generalize hhere : (if above.isEmpty then part else above ++ "/" ++ part) = here at h
    have hcolon : ':' ∉ here.toList := by
      subst hhere
      split <;> simp [habove, hpart]
    split at h
    · exact ih hcolon htodo h
    · rcases List.mem_cons.mp h with heq | h
      · obtain ⟨rfl, rfl⟩ := Edit.put.inj heq
        exact ⟨rfl, isPath_some_iff.mpr hcolon⟩
      · exact ih hcolon htodo ((List.mem_cons.mp h).resolve_left (by simp))

theorem filed_of_put_mem_addFile {g : Graph} {s : Source} {disk : Entry} {parts : List String} {file : Path}
    {rel : String} (hrel : ':' ∉ rel.toList) {parent k : NodeId} {n : Node}
    (h : .put k n ∈ (g.addFile s disk parts file rel parent).list) : n.children = [] ∧ n.Filed k := by
  have hremoved : .put k n ∉ g.removeFile rel := g.put_not_mem_removeFile rel k n
  unfold addFile at h
  cases hl : Language.forPath? file with
  | none =>
    rw [hl] at h
    exact absurd h hremoved
  | some l =>
    rw [hl] at h
    simp only at h
    split at h
    · have hput := (List.mem_append.mp h).resolve_left hremoved
      rw [fileEdits_eq_linkEdits] at hput
      obtain ⟨hn, rfl⟩ := put_mem_linkEdits hput
      exact ⟨(fresh_of_mem_fileNodes n hn).1, filed_of_mem_fileNodes hrel n hn⟩
    · have hput := List.mem_singleton.mp ((List.mem_append.mp h).resolve_left hremoved)
      obtain ⟨rfl, rfl⟩ := Edit.put.inj hput
      exact ⟨rfl, Node.filed_of_isPath (isPath_some_iff.mpr hrel) _⟩

end Graph

/-- **The nodes that a step puts** have no children, and belong to the files that their keys tell. -/
theorem Growth.filed_of_put_mem {step : Growth} (hstep : step.hasPlainPaths = true) {g : Graph} {k : NodeId} {n : Node}
    (h : .put k n ∈ step.edits g) : n.children = [] ∧ n.Filed k := by
  cases step with
  | build s patterns disk =>
    change .put k n ∈ (buildEdits s patterns disk).list at h
    rw [list_buildEdits] at h
    rcases List.mem_cons.mp h with heq | h
    · obtain ⟨rfl, rfl⟩ := Edit.put.inj heq
      exact ⟨rfl, Node.filed_of_isPath (isPath_some_iff.mpr (by decide)) _⟩
    · obtain ⟨hn, rfl⟩ := put_mem_linkEdits h
      obtain ⟨v, hv, hn⟩ := List.mem_flatMap.mp hn
      exact ⟨Visit.children_of_mem_nodes hn, Visit.filed_of_mem_nodes (parts_of_mem_visited hstep hv).2 n hn⟩
  | folders rel =>
    obtain ⟨hroot, hrel⟩ := hasPlainPaths_folders_iff.mp hstep
    obtain ⟨hchildren, hpath⟩ := Graph.put_mem_addFoldersFrom_isPath (by decide)
      (Path.colon_not_mem_folders hroot hrel) h
    exact ⟨hchildren, Node.filed_of_isPath hpath n⟩
  | add s disk rel => exact Graph.filed_of_put_mem_addFile (hasPlainPaths_add_iff.mp hstep) h

namespace Graph

/-- **A step, with and without declarations.** -/
theorem paths_grow (g : Graph) {step : Growth} (hstep : step.hasPlainPaths = true) :
    (g.grow step).paths = g.paths.grow step.muted := by
  rw [grow, paths_applyAll g fun k n hput => (step.filed_of_put_mem hstep hput).1, grow]
  -- it is left to see that the edits about paths are those of the step without declarations
  congr 1
  cases step with
  | build s patterns disk => exact filter_buildEdits hstep patterns
  | folders rel =>
    obtain ⟨hroot, hrel⟩ := Growth.hasPlainPaths_folders_iff.mp hstep
    exact filter_addFoldersFrom g (by decide) (Path.colon_not_mem_folders hroot hrel) _
  | add s disk rel =>
    have hrel : ':' ∉ rel.toList := Growth.hasPlainPaths_add_iff.mp hstep
    exact filter_addFile g s disk _ _ hrel (isPath_some_iff.mpr (Path.colon_not_mem_parent hrel))

/-- The paths of a graph are regular, and its declarations belong to the files that their keys tell. -/
structure Filed (g : Graph) : Prop where
  each : g.Each fun k n => n.Filed k
  regular : g.paths.Regular

theorem filed_empty : empty.Filed :=
  ⟨⟨List.nodup_nil, fun h => absurd h List.not_mem_nil⟩, regular_empty⟩

theorem Filed.grow {g : Graph} (h : g.Filed) {step : Growth} (hstep : step.hasPlainPaths = true) :
    (g.grow step).Filed := by
  refine ⟨h.each.applyAll (fun _ hn => hn) fun k n hput => (step.filed_of_put_mem hstep hput).2, ?_⟩
  rw [paths_grow g hstep]
  exact h.regular.grow (step.plain_muted hstep)

/-- **A graph stays filed while it grows.** -/
theorem Filed.growAll {g : Graph} (h : g.Filed) {steps : List Growth}
    (hsteps : ∀ step ∈ steps, step.hasPlainPaths = true) : (g.growAll steps).Filed := by
  induction steps generalizing g with
  | nil => exact h
  | cons step steps ih =>
    rw [List.forall_mem_cons] at hsteps
    exact ih (h.grow hsteps.1) hsteps.2

end Graph

end CodeAtlas
