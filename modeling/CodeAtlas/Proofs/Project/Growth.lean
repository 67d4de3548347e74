import Mathlib
import CodeAtlas.Proofs.Graph.Ranked
import CodeAtlas.Proofs.Project.History
import CodeAtlas.Proofs.Project.Scanned

/-!
# Graphs that grow

A graph grows when a project is scanned, when the directories above a file are put, and when a file is added. This may
happen in any order, for projects that change in between, and also after a step that failed. Identifiers are free texts,
and a node takes the place of another one with the same identifier. But whatever the names are, the identifier of a node
has a higher rank than that of the node above it: it is longer, or else the node above it is the root.

There is one exception. The root of a project may be called like a source file, and if it is added as a file of the
project, it is put below itself.

## Main definitions

* `Growth`: the steps by which a graph grows
* `Growth.Proper`: steps that do not put the root below itself
* `Graph.growAll`: the graph after some steps

## Main results

* `Path.rank_parent_lt`: the text of a path has a higher rank than its parent
* `Graph.Ranked.growAll`: a graph stays ranked while it grows
* `walks_growAll`: no walk comes to a node twice, and all numbers are found
* `Graph.up_rootKey_of_add`: the exception
-/

namespace CodeAtlas

open Store

/-! ## Paths and their parents -/

namespace Path

theorem append_nil (p : Path) : p.append ⟨"", []⟩ = p := by
  simp [append]

theorem mem_components {s part : String} (h : part ∈ components s) : part ≠ "" ∧ part ≠ "." := by
  simpa using (List.mem_filter.mp h).2

theorem mem_allParts_ofString {s part : String} (h : part ∈ (ofString s).allParts) : part ≠ "" ∧ part ≠ "." := by
  rw [allParts] at h
  split at h
  · exact mem_components h
  · next hroot =>
    rcases List.mem_cons.mp h with rfl | h
    · -- the root is not empty, so it is one slash or two
      refine ⟨by simpa using hroot, ?_⟩
      rw [ofString]
      simp only
      split
      · decide
      · split <;> decide
    · exact mem_components h

/-- The components of a path are not longer than its text. -/
theorem length_joinWith_components_le (s : String) : (Text.joinWith "/" (components s)).length ≤ s.length := by
  have hsub := Text.length_intercalate_le_of_sublist "/".toList
    ((List.filter_sublist (l := Text.cutAt '/' s) (p := fun part => part != "" && part != ".")).map String.toList)
  rw [← Text.length_joinWith, ← Text.length_joinWith, Text.joinWith_cutAt rfl] at hsub
  exact hsub

theorem components_slash (cs : List Char) : components (String.ofList ('/' :: cs)) = components (String.ofList cs) := by
  simp [components, Text.cutAt, List.splitOn_cons_eq_if_modifyHead]

/-- The slashes at the start of a text are not part of its components. -/
theorem length_slashes_add_le (cs : List Char) :
    (cs.takeWhile (· == '/')).length + (Text.joinWith "/" (components (String.ofList cs))).length ≤ cs.length := by
  induction cs with
  | nil => decide
  | cons c cs ih =>
    by_cases hc : c = '/'
    · subst hc
      rw [components_slash, List.takeWhile_cons_of_pos (by decide), List.length_cons, List.length_cons]
      omega
    · have hcomponents := length_joinWith_components_le (String.ofList (c :: cs))
      rw [String.length_ofList] at hcomponents
      rwa [List.takeWhile_cons_of_neg (by simpa using hc), List.length_nil, Nat.zero_add]

theorem length_root_add_le (s : String) :
    (ofString s).root.length + (Text.joinWith "/" (ofString s).parts).length ≤ s.length := by
  have hslashes := length_slashes_add_le s.toList
  rw [String.ofList_toList, String.length_toList] at hslashes
  have hroot : (ofString s).root.length ≤ (s.toList.takeWhile (· == '/')).length := by
    rw [ofString]
    simp only
    generalize (s.toList.takeWhile (· == '/')).length = slashes
    split
    · exact Nat.zero_le _
    · next hsome =>
      split
      · next htwo =>
        rw [htwo]
        decide
      · exact Nat.pos_of_ne_zero hsome
  change _ + (Text.joinWith "/" (components s)).length ≤ _
  omega

/-- **The text of a path has a higher rank than its parent.** -/
theorem rank_parent_lt {s : String} (h : (ofString s).parts ≠ []) :
    rank (some (ofString s).parent.toString) < rank (some s) := by
  have hdot : s ≠ "." := by
    rintro rfl
    exact h rfl
  rw [toString]
  split
  · exact rank_rootKey_lt hdot
  · refine rank_lt_of_length_lt hdot ?_
    have hlast := (mem_components (List.getLast_mem h)).1
    have hshorter := Text.length_joinWith_dropLast_lt "/" h hlast
    have hlength := length_root_add_le s
    rw [String.length_append]
    change (ofString s).root.length + (Text.joinWith "/" (ofString s).parts.dropLast).length < s.length
    omega

end Path

/-- A path without components is no source file. -/
theorem Language.forPath?_of_parts_eq_nil (root : String) : Language.forPath? ⟨root, []⟩ = none := by
  rw [forPath?, List.find?_eq_none]
  intro l hl hsupports
  have hext : "" ∈ allExtensions := List.mem_flatMap.mpr ⟨l, hl, List.contains_iff_mem.mp hsupports⟩
  exact absurd hext (by decide +kernel)

/-! ## Nodes and the nodes above them -/

/-- A text with a character other than a dot is not the root. -/
theorem ne_dot_of_mem {s : String} {c : Char} (hc : c ∈ s.toList) (hne : c ≠ '.') : s ≠ "." := by
  rintro rfl
  exact hne (List.mem_singleton.mp hc)

theorem rank_lt_append {a glue b : String} (hglue : glue ≠ "") (hdot : a ++ glue ++ b ≠ ".") :
    rank (some a) < rank (some (a ++ glue ++ b)) := by
  have hpos : glue.length ≠ 0 := mt String.length_eq_zero_iff.mp hglue
  refine rank_lt_of_length_lt hdot ?_
  rw [String.length_append, String.length_append]
  omega

/-- A node as it is put: it has no children, and the node above it has a lower rank. -/
def Node.Placed (n : Node) : Prop :=
  n.children = [] ∧ rank n.parent < rank n.id

theorem Node.Placed.ranked {n : Node} (h : n.Placed) : n.Ranked n.id :=
  ⟨rfl, fun _ => h.2, by simp [h.1]⟩

/-- To put nodes below the nodes above them respects ranks. -/
theorem ranked_linkEdits {ns : List Node} (h : ∀ n ∈ ns, n.Placed) : ∀ e ∈ linkEdits ns, e.Ranked := by
  intro e he
  obtain ⟨n, hn, he⟩ := List.mem_flatMap.mp he
  rcases List.mem_cons.mp he with rfl | he
  · exact (h n hn).ranked
  · rw [List.mem_singleton.mp he]
    exact (h n hn).2

theorem placed_entityNode (rel : String) (e : Entity) : (entityNode rel e).Placed := by
  refine ⟨rfl, ?_⟩
  change rank (some (entityParentId rel e)) < rank (some (entityNodeId rel e))
  rw [entityNodeId]
  cases hparent : e.parent with
  | none =>
    simp only [entityParentId, hparent]
    exact rank_lt_append (by decide) (ne_dot_of_mem (c := ':') (by simp) (by decide))
  | some parent =>
    refine rank_lt_append (by decide) (ne_dot_of_mem (c := ':') ?_ (by decide))
    simp [entityParentId, hparent]

/-- The nodes of a file are placed if the file is. -/
theorem placed_fileNodes {rel : String} {parent : NodeId} (h : rank parent < rank (some rel)) (file : Path)
    (l : Language) (o : Outline) : ∀ n ∈ fileNodes file rel parent l o, n.Placed := by
  rw [fileNodes, List.forall_mem_cons, List.forall_mem_map]
  exact ⟨⟨rfl, h⟩, fun e _ => placed_entityNode rel e⟩

theorem ranked_fileEdits {rel : String} {parent : NodeId} (h : rank parent < rank (some rel)) (file : Path)
    (l : Language) (o : Outline) : ∀ e ∈ fileEdits file rel parent l o, e.Ranked := by
  rw [fileEdits_eq_linkEdits]
  exact ranked_linkEdits (placed_fileNodes h file l o)

/-! ## A scan -/

/-- The identifier of an item has a higher rank than that of its directory. -/
theorem rank_folderId_lt {parts : List String} {name : String} (h : parts = [] → name ≠ ".") :
    rank (folderId parts) < rank (some (relativeText (parts ++ [name]))) := by
  by_cases hparts : parts = []
  · rw [hparts, folderId_nil, List.nil_append, relativeText_singleton]
    exact rank_rootKey_lt (h hparts)
  · rw [folderId_of_ne_nil hparts, relativeText_append_singleton hparts]
    exact rank_lt_append (by decide) (ne_dot_of_mem (c := '/') (by simp) (by decide))

theorem ranked_andThen {a : Edits} {b : Unit → Edits} (ha : ∀ e ∈ a.list, e.Ranked) (hb : ∀ e ∈ (b ()).list, e.Ranked) :
    ∀ e ∈ (a.andThen b).list, e.Ranked := by
  unfold Edits.andThen
  split
  · exact ha
  · exact List.forall_mem_append.mpr ⟨ha, hb⟩

section Scan

variable (s : Source) (patterns : List String)

mutual

theorem ranked_scanItem : ∀ (e : Entry) (parts : List String) (name : String), (parts = [] → name ≠ ".") →
    ∀ edit ∈ (scanItem s patterns parts (folderId parts) name e).list, edit.Ranked
  | .file content locked, parts, name, h => by
    unfold scanItem
    simp only
    split
    · exact List.forall_mem_nil _
    · exact List.forall_mem_nil _
    · split
      · exact ranked_fileEdits (rank_folderId_lt h) _ _ _
      · exact List.forall_mem_nil _
  | .folder items locked, parts, name, h => by
    have hne : parts ++ [name] ≠ [] := by simp
    have hhere : ∀ edit ∈ linkEdits [.folder (some (relativeText (parts ++ [name]))) name (folderId parts)],
        edit.Ranked :=
      ranked_linkEdits fun n hn => by
        rw [List.mem_singleton.mp hn]
        exact ⟨rfl, rank_folderId_lt h⟩
    unfold scanItem
    simp only
    split
    · exact List.forall_mem_nil _
    · exact List.forall_mem_nil _
    · refine ranked_andThen hhere ?_
      split
      · exact List.forall_mem_nil _
      · rw [← folderId_of_ne_nil hne]
        exact ranked_scanItems items _ fun hnil => absurd hnil hne

theorem ranked_scanItems : ∀ (items : List (String × Entry)) (parts : List String),
    (parts = [] → ∀ item ∈ items, item.1 ≠ ".") →
    ∀ edit ∈ (scanItems s patterns parts (folderId parts) items).list, edit.Ranked
  | [], parts, h => by
    unfold scanItems
    exact List.forall_mem_nil _
  | (name, e) :: rest, parts, h => by
    unfold scanItems
    refine ranked_andThen (ranked_scanItem e parts name fun hnil => ?_) (ranked_scanItems rest parts fun hnil => ?_)
    · exact (List.forall_mem_cons.mp (h hnil)).1
    · exact (List.forall_mem_cons.mp (h hnil)).2

end

/-- **A scan respects ranks.** -/
theorem ranked_buildEdits {disk : Entry} (h : ∀ item ∈ disk.items, item.1 ≠ ".") :
    ∀ e ∈ (buildEdits s patterns disk).list, e.Ranked := by
  unfold buildEdits
  refine ranked_andThen ?_ ?_
  · rintro e he
    rw [List.mem_singleton.mp he]
    exact ⟨rfl, fun hsome => (by cases hsome), List.forall_mem_nil _⟩
  · split
    · next items hlisting =>
      have hitems : items = disk.items := by
        cases disk with
        | file content locked => cases hlisting
        | folder items locked =>
          rw [Entry.listing?] at hlisting
          split at hlisting
          · cases hlisting
          · exact (Option.some.inj hlisting).symm
      exact ranked_scanItems s _ items [] fun _ => hitems ▸ h
    · exact List.forall_mem_nil _

end Scan

/-! ## A single file -/

/-- A source file is not the root, unless the root is called like one. -/
theorem rank_parent_lt_of_forPath? {s : Source} {rel : String} {l : Language}
    (hl : Language.forPath? (s.path.append (Path.ofString rel)) = some l)
    (h : rel = "." → Language.forPath? s.path = none) :
    rank (some (Path.ofString rel).parent.toString) < rank (some rel) := by
  by_cases hparts : (Path.ofString rel).parts = []
  · generalize hpath : Path.ofString rel = path at hl hparts ⊢
    obtain ⟨root, parts⟩ := path
    subst hparts
    by_cases hroot : root = ""
    · -- it is the root of the project
      subst hroot
      rw [Path.append_nil] at hl
      refine rank_rootKey_lt fun hdot => ?_
      rw [h hdot] at hl
      cases hl
    · have hself : s.path.append ⟨root, []⟩ = ⟨root, []⟩ := by simp [Path.append, hroot]
      rw [hself, Language.forPath?_of_parts_eq_nil] at hl
      cases hl
  · exact Path.rank_parent_lt hparts

namespace Graph

theorem ranked_addFoldersFrom (g : Graph) {parent : NodeId} {above : String} {todo : List String}
    (h : above = "" ∧ parent = rootKey ∨ above ≠ "" ∧ parent = some above)
    (htodo : ∀ part ∈ todo, part ≠ "" ∧ part ≠ ".") : ∀ e ∈ g.addFoldersFrom parent above todo, e.Ranked := by
  -- on the directories that are left; the last one is the root, or the one whose text is above the next
  induction todo generalizing g parent above with
  | nil => exact List.forall_mem_nil _
  | cons part todo ih =>
    obtain ⟨⟨hpart, hdot⟩, htodo⟩ := List.forall_mem_cons.mp htodo
    rw [addFoldersFrom]
    generalize hhere : (if above.isEmpty then part else above ++ "/" ++ part) = here
    have hnext : here ≠ "" ∧ rank parent < rank (some here) := by
      rcases h with ⟨habove, hparent⟩ | ⟨habove, hparent⟩
      · subst hhere
        rw [habove, hparent]
        exact ⟨hpart, rank_rootKey_lt hdot⟩
      · rw [if_neg (by simpa using habove)] at hhere
        subst hhere
        rw [hparent]
        refine ⟨fun hempty => habove ?_, rank_lt_append (by decide) (ne_dot_of_mem (c := '/') (by simp) (by decide))⟩
        simpa using congrArg String.toList hempty
    split
    · exact ih g (Or.inr ⟨hnext.1, rfl⟩) htodo
    · have hput : ∀ e ∈ linkEdits [.folder (some here) part parent], e.Ranked :=
        ranked_linkEdits fun n hn => by
          rw [List.mem_singleton.mp hn]
          exact ⟨rfl, hnext.2⟩
      exact List.forall_mem_append.mpr ⟨hput, ih _ (Or.inr ⟨hnext.1, rfl⟩) htodo⟩

/-- **Putting the directories above a file respects ranks.** -/
theorem ranked_addFolders (g : Graph) (rel : String) : ∀ e ∈ g.addFolders (Path.ofString rel), e.Ranked := by
  refine g.ranked_addFoldersFrom (Or.inl ⟨rfl, rfl⟩) fun part hpart => ?_
  exact Path.mem_allParts_ofString (List.mem_of_mem_dropLast hpart)

theorem ranked_addFile (g : Graph) (s : Source) (disk : Entry) (parts : List String) {file : Path} {rel : String}
    {parent : NodeId} (h : ∀ l, Language.forPath? file = some l → rank parent < rank (some rel)) :
    ∀ e ∈ (g.addFile s disk parts file rel parent).list, e.Ranked := by
  have hremoved : ∀ e ∈ g.removeFile rel, e.Ranked := by
    intro e he
    rcases mem_removeFile he with ⟨parent, child, rfl⟩ | ⟨k, rfl⟩ <;> trivial
  unfold addFile
  cases hl : Language.forPath? file with
  | none => exact hremoved
  | some l =>
    simp only
    split
    · exact List.forall_mem_append.mpr ⟨hremoved, ranked_fileEdits (h l hl) _ _ _⟩
    · refine List.forall_mem_append.mpr ⟨hremoved, fun e he => ?_⟩
      rw [List.mem_singleton.mp he]
      exact Node.Placed.ranked (n := fileNode file rel parent l _) ⟨rfl, h l hl⟩

end Graph

/-! ## Growing step by step -/

/-- A step by which a graph grows. The project may be another one in each step. -/
inductive Growth where
  /-- A project is scanned. -/
  | build (s : Source) (patterns : List String) (disk : Entry)
  /-- The missing directories above a file are put. -/
  | folders (rel : String)
  /-- A file of a project is added, or added again, below its directory. -/
  | add (s : Source) (disk : Entry) (rel : String)

/-- The edits of a step. -/
def Growth.edits (g : Graph) : Growth → List Edit
  | .build s patterns disk => (buildEdits s patterns disk).list
  | .folders rel => g.addFolders (Path.ofString rel)
  | .add s disk rel =>
    let path := Path.ofString rel
    (g.addFile s disk path.parts (s.path.append path) rel (some path.parent.toString)).list

/-- A step that does not put the root below itself. No item of a project is called like the root, and the root is added
as a file only if it is not called like a source file. -/
def Growth.Proper : Growth → Prop
  | .build _ _ disk => ∀ item ∈ disk.items, item.1 ≠ "."
  | .folders _ => True
  | .add s _ rel => rel = "." → Language.forPath? s.path = none

namespace Graph

/-- The graph after a step, also if it failed. -/
def grow (g : Graph) (step : Growth) : Graph :=
  g.applyAll (step.edits g)

/-- The graph after some steps. -/
def growAll (g : Graph) (steps : List Growth) : Graph :=
  steps.foldl grow g

/-- A step keeps a graph ranked. -/
theorem Ranked.grow {g : Graph} (h : g.Ranked) {step : Growth} (hstep : step.Proper) : (g.grow step).Ranked := by
  refine h.applyAll ?_
  cases step with
  | build s patterns disk => exact ranked_buildEdits s patterns hstep
  | folders rel => exact g.ranked_addFolders rel
  | add s disk rel => exact g.ranked_addFile s disk _ fun l hl => rank_parent_lt_of_forPath? hl hstep

/-- **A graph stays ranked while it grows.** -/
theorem Ranked.growAll {g : Graph} (h : g.Ranked) {steps : List Growth} (hsteps : ∀ step ∈ steps, step.Proper) :
    (g.growAll steps).Ranked := by
  induction steps generalizing g with
  | nil => exact h
  | cons step steps ih =>
    rw [List.forall_mem_cons] at hsteps
    exact ih (h.grow hsteps.1) hsteps.2

end Graph

/-- A root that is called like a source file, and is added as a file, is put below itself. -/
theorem Graph.up_rootKey_of_add (g : Graph) {s : Source} {l : Language} (h : Language.forPath? s.path = some l)
    (disk : Entry) : (g.grow (.add s disk ".")).Up rootKey rootKey := by
  generalize ho : l.outline s.read s.path (disk.readFile s.asUser []) = o
  have hedits : Growth.edits g (.add s disk ".") = g.removeFile "." ++ fileEdits s.path "." rootKey l o := by
    change (g.addFile s disk [] (s.path.append ⟨"", []⟩) "." rootKey).list = _
    rw [Path.append_nil]
    unfold addFile
    rw [h, ← ho]
    exact congrArg Edits.list (if_pos (by simp [rootKey]))
  -- no declaration takes the place of the root
  have hnot : rootKey ∉ (o.entities.map (entityNode ".")).map (·.id) := by
    intro hm
    obtain ⟨n, hn, hid⟩ := List.mem_map.mp hm
    obtain ⟨e, -, rfl⟩ := List.mem_map.mp hn
    have hrank := (placed_entityNode "." e).2
    rw [hid, rank_rootKey] at hrank
    exact Nat.not_lt_zero _ hrank
  have hgrow : g.grow (.add s disk ".") =
      (((g.applyAll (g.removeFile ".")).put rootKey (fileNode s.path "." rootKey l o)).modifyChildren rootKey
        (· ++ [rootKey])).applyAll (linkEdits (o.entities.map (entityNode "."))) := by
    rw [grow, hedits, applyAll, List.foldl_append, fileEdits_eq_linkEdits]
    rfl
  rw [Up, hgrow, find?_linkEdits_of_not_mem hnot, find?_modifyChildren, find?_put, if_pos rfl, Option.map_some,
    Option.map_some, if_pos rfl]
  exact ⟨_, rfl, rfl, rfl⟩

/-- **No walk comes to a node twice, and all numbers are found.** A graph has grown in any steps, of which none puts the
root below itself. Then every walk to the nodes above, and every walk to the children, comes to no node twice and has at
most one step from each node. So the numbers of every node are found by asking its children. If the graph is saved, the
queries for the numbers of one identifier and of several identifiers run to their end. A root that is called like a
source file, and is added as a file, would be above itself. -/
theorem walks_growAll {R : Type} {steps : List Growth} (h : ∀ step ∈ steps, step.Proper) :
    let g := Graph.empty.growAll steps
    (∀ walk : List NodeId, walk.IsChain g.Up ∨ walk.IsChain g.Down →
        walk.Nodup ∧ walk.length ≤ g.nodes.length + 1) ∧
      (∀ k, g.Counted k (g.stats k)) ∧
      (∀ c c' : Connection R, c.saveGraph g = (.ok (), c') →
        (∀ k, ∃ found, c'.view.Descends k found ∧ c'.ask (·.stats k) = .ok (Tables.countRows found)) ∧
        ∀ ids, ids.length ≤ c'.limits.maxVariables → ∃ found, c'.view.DescendsAll ids found ∧ c'.statsOfAll ids =
          .ok (ids.eraseDups.map fun id => (id, Tables.countRows ((found.filter (·.1 == id)).map (·.2))))) ∧
      ∀ s l disk, Language.forPath? s.path = some l →
        (g.grow (.add s disk ".")).Up Graph.rootKey Graph.rootKey := by
  intro g
  have hg : g.Ranked := Graph.ranked_empty.growAll h
  refine ⟨fun walk hwalk => hwalk.elim hg.walk_up hg.walk_down, hg.counted, fun c c' hsave => ?_,
    fun s l disk hl => g.up_rootKey_of_add hl disk⟩
  obtain ⟨rows, hrows, hview, hopen⟩ := Connection.eq_of_saveGraph hsave
  have ht : c'.view.Ranked := Tables.ranked_of_storeRows hg (by rw [hview]; exact hrows)
  refine ⟨fun k => ?_, fun ids hfew => ?_⟩
  · obtain ⟨found, hfound, hstats⟩ := ht.exists_descends k
    exact ⟨found, hfound, by rw [Connection.ask_of_isOpen hopen, hstats]⟩
  · obtain ⟨found, hfound, hstats⟩ := ht.exists_descendsAll ids
    exact ⟨found, hfound, by rw [Connection.statsOfAll_of_few hopen hfew, hstats]⟩

namespace Sample

/-- A project is scanned. Then a file in a new directory is added to it, and another file is added again. -/
def growth : List Growth :=
  let before := folder [("lib", folder [("a.py", file "fetch load")])]
  let after := folder [("lib", folder [("a.py", file "fetch"), ("new", folder [("b.py", file "save")])])]
  [.build words [] before, .folders "lib/new/b.py", .add words after "lib/new/b.py", .add words after "lib/a.py"]

end Sample

/-- Two files in two directories: no walk has more than eight places, and the graph and the tables count two functions
after the graph was saved. -/
theorem walks_sample_growth :
    let g := Graph.empty.growAll Sample.growth
    (∀ walk : List NodeId, walk.IsChain g.Up → walk.Nodup ∧ walk.length ≤ 8) ∧
      g.Counted (some "lib") { files := 2, functions := 2 } ∧
      ∃ c : Connection Float, ({} : Connection Float).saveGraph g = (.ok (), c) ∧
        ∃ found, c.view.Descends (some "lib") found ∧ c.ask (·.stats (some "lib")) = .ok (Tables.countRows found) := by
  intro g
  have hproper : ∀ step ∈ Sample.growth, step.Proper := by
    simp [Sample.growth, Growth.Proper, Sample.folder, Entry.items]
  obtain ⟨hwalks, hcounted, hqueries, -⟩ := walks_growAll (R := Float) hproper
  obtain ⟨hlength, hstats, hwell⟩ : g.nodes.length + 1 = 8 ∧ g.stats (some "lib") = { files := 2, functions := 2 } ∧
      Sample.endsWell (({} : Connection Float).saveGraph g).1 = true := by
    decide +kernel
  refine ⟨fun walk hwalk => hlength ▸ hwalks walk (Or.inl hwalk), hstats ▸ hcounted (some "lib"), ?_⟩
  obtain ⟨⟨⟩, hok⟩ := Sample.exists_of_endsWell hwell
  have hsave : ({} : Connection Float).saveGraph g = (.ok (), (({} : Connection Float).saveGraph g).2) :=
    Prod.ext hok rfl
  exact ⟨_, hsave, (hqueries {} _ hsave).1 (some "lib")⟩

namespace Sample

/-- A project whose root is called like a source file. -/
def rooted : Source :=
  { words with path := ⟨"/", ["proj.py"]⟩ }

/-- A project is scanned whose root is called like a source file, and then the root is added as a file. -/
def rootedGraph : Graph :=
  (Graph.empty.growAll [.build rooted [] (folder [])]).grow (.add rooted (folder []) ".")

/-- A connection to an empty database whose statements may have many variables. -/
def roomy : Connection Float where
  limits := { maxVariables := 250000 }

end Sample

/-- A root that is called like a source file is scanned and then added as a file. It is above itself and its own child.
Its numbers are never found in the graph, and once the graph is saved the query for them does not run to its end. More
identifiers than a statement has variables are not even asked for. -/
theorem not_walks_of_root_added :
    let g := Sample.rootedGraph
    [Graph.rootKey, Graph.rootKey].IsChain g.Up ∧ [Graph.rootKey, Graph.rootKey].IsChain g.Down ∧
      (∀ stats, ¬ g.Counted Graph.rootKey stats) ∧
      ∃ c, Sample.roomy.saveGraph g = (.ok (), c) ∧ (∀ found, ¬ c.view.Descends Graph.rootKey found) ∧
        c.statsOfAll (List.replicate 250001 Graph.rootKey) = .error .tooManyVariables := by
  intro g
  have hlanguage : (Language.forPath? Sample.rooted.path).isSome = true := by decide +kernel
  obtain ⟨l, hl⟩ := Option.isSome_iff_exists.mp hlanguage
  have hup : g.Up Graph.rootKey Graph.rootKey := Graph.up_rootKey_of_add _ hl (Sample.folder [])
  have hdown : g.Down Graph.rootKey Graph.rootKey := by
    have hchildren : (Sample.rootedGraph.find? Graph.rootKey).map (·.children) = some [Graph.rootKey] := by
      decide +kernel
    obtain ⟨n, hn, heq⟩ := Option.map_eq_some_iff.mp hchildren
    exact ⟨n, hn, heq ▸ List.mem_singleton_self _⟩
  refine ⟨List.isChain_pair.mpr hup, List.isChain_pair.mpr hdown, Graph.not_counted_of_down hdown, ?_⟩
  obtain ⟨hwell, hrow⟩ : Sample.endsWell (Sample.roomy.saveGraph Sample.rootedGraph).1 = true ∧
      ((Sample.roomy.saveGraph Sample.rootedGraph).2.view.row? Graph.rootKey).map (·.parent) = some Graph.rootKey := by
    decide +kernel
  obtain ⟨⟨⟩, hok⟩ := Sample.exists_of_endsWell hwell
  have hsave : Sample.roomy.saveGraph g = (.ok (), (Sample.roomy.saveGraph g).2) := Prod.ext hok rfl
  obtain ⟨rows, -, hopen, -, hsaved⟩ := Connection.eq_withNodes_of_saveGraph hsave
  obtain ⟨r, hr, hparent⟩ := Option.map_eq_some_iff.mp hrow
  refine ⟨_, hsave, Tables.not_descends_of_parent_eq hr hparent, ?_⟩
  have hmany : Sample.roomy.limits.maxVariables < (List.replicate 250001 Graph.rootKey).length := by
    rw [List.length_replicate]
    decide
  rw [hsaved]
  -- only the length of the list matters, and the list is long
  generalize List.replicate 250001 Graph.rootKey = ids at hmany ⊢
  exact Connection.statsOfAll_of_many (c := { Sample.roomy with committed := Sample.roomy.committed.withNodes rows })
    hopen hmany

end CodeAtlas
