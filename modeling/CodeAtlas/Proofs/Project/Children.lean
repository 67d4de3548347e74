import Mathlib
import CodeAtlas.Proofs.Project.Visits

/-!
# Children of a graph that grows

A graph grows when a project is scanned, when the directories above a file are put, and when a file is added. It may grow
in any order, from projects that change in between, and also after a step that failed. If no path has a colon and no
declaration has a dot in its name, the graph stays regular: every node stands under its own identifier, and every
identifier that a node lists belongs to a node that names it as the node above.

## Main definitions

* `Growth.entities`: the declarations that a step finds
* `Growth.Plain`: steps in which no path has a colon and no declaration a dot

## Main results

* `Path.ofString_relativeText`: the text of components is read as these components
* `Graph.Regular.build`, `Graph.Regular.addFolders`, `Graph.Regular.addFile`: a step leaves a graph regular
* `children_growAll`: the lists of children never dangle
-/

namespace CodeAtlas

/-! ## Texts of components -/

/-- What can stand between two slashes of a path. This may be a double dot. -/
def IsComponent (name : String) : Prop :=
  name ≠ "" ∧ name ≠ "." ∧ '/' ∉ name.toList

theorem isComponent_of_isFileName {name : String} (h : isFileName name = true) : IsComponent name := by
  obtain ⟨hempty, hdot, -, hslash⟩ := isFileName_iff.mp h
  exact ⟨hempty, hdot, hslash⟩

theorem Path.isComponent_of_mem_components {s name : String} (h : name ∈ components s) : IsComponent name := by
  obtain ⟨hempty, hdot⟩ := mem_components h
  refine ⟨hempty, hdot, ?_⟩
  obtain ⟨chars, hchars, rfl⟩ := List.mem_map.mp (List.mem_filter.mp h).1
  rw [String.toList_ofList]
  exact Text.not_mem_of_mem_splitOn hchars

/-- A character of a component is a character of the text. -/
theorem Path.mem_of_mem_components {s name : String} (h : name ∈ components s) {c : Char} (hc : c ∈ name.toList) :
    c ∈ s.toList := by
  obtain ⟨chars, hchars, rfl⟩ := List.mem_map.mp (List.mem_filter.mp h).1
  rw [String.toList_ofList] at hc
  rw [← @List.intercalate_splitOn _ s.toList _ _ '/']
  exact Text.mem_intercalate_of_mem _ hchars hc

theorem cutAt_relativeText {parts : List String} (h : ∀ n ∈ parts, IsComponent n) (hne : parts ≠ []) :
    Text.cutAt '/' (relativeText parts) = parts :=
  Text.cutAt_joinWith rfl hne fun n hn => (h n hn).2.2

theorem relativeText_eq_empty_iff {parts : List String} (h : ∀ n ∈ parts, IsComponent n) :
    relativeText parts = "" ↔ parts = [] := by
  refine ⟨fun hempty => ?_, fun hnil => hnil ▸ rfl⟩
  by_contra hne
  have hcut := cutAt_relativeText h hne
  rw [hempty] at hcut
  -- an empty text is cut into one empty piece
  exact (h "" (hcut ▸ List.mem_singleton.mpr rfl)).1 rfl

/-- **The text of components is read as these components.** -/
theorem Path.ofString_relativeText {parts : List String} (h : ∀ n ∈ parts, IsComponent n) :
    ofString (relativeText parts) = relative parts := by
  by_cases hne : parts = []
  · rw [hne]
    rfl
  have hcut := cutAt_relativeText h hne
  have hcomponents : components (relativeText parts) = parts := by
    rw [components, hcut, List.filter_eq_self]
    intro n hn
    simp [(h n hn).1, (h n hn).2.1]
  -- the text does not start with a slash, for then its first piece would be empty
  have hslashes : (relativeText parts).toList.takeWhile (· == '/') = [] := by
    cases hchars : (relativeText parts).toList with
    | nil => rfl
    | cons c cs =>
      refine List.takeWhile_cons_of_neg fun hc => ?_
      rw [Text.cutAt, hchars, beq_iff_eq.mp hc] at hcut
      have hmem : "" ∈ parts := by
        rw [← hcut]
        simp [List.splitOn_cons_eq_if_modifyHead]
      exact (h "" hmem).1 rfl
  simp [ofString, relative, hslashes, hcomponents]

theorem colon_not_mem_relativeText_of_components {parts : List String} (h : ∀ n ∈ parts, ':' ∉ n.toList) :
    ':' ∉ (relativeText parts).toList := by
  intro hcolon
  rw [relativeText, Text.toList_joinWith] at hcolon
  rcases Text.mem_or_exists_of_mem_intercalate hcolon with hglue | ⟨chars, hchars, hcolon⟩
  · exact absurd hglue (by decide)
  · obtain ⟨n, hn, rfl⟩ := List.mem_map.mp hchars
    exact h n hn hcolon

/-! ## The nodes that are put -/

theorem legible_root (name : String) : (Node.folder Graph.rootKey name none).Legible "." :=
  ⟨rfl, Or.inl ⟨rfl, rfl⟩, Or.inl ⟨by decide, rfl⟩⟩

theorem legible_folder {id : String} (hid : ':' ∉ id.toList) (name : String) :
    (Node.folder (some id) name (some (Path.ofString id).parent.toString)).Legible id :=
  ⟨rfl, Or.inr ⟨_, rfl, .path hid rfl⟩, Or.inl ⟨hid, rfl⟩⟩

theorem legible_fileNode {rel : String} (hrel : ':' ∉ rel.toList) (file : Path) (l : Language) (o : Outline) :
    (fileNode file rel (some (Path.ofString rel).parent.toString) l o).Legible rel :=
  ⟨rfl, Or.inr ⟨_, rfl, .path hrel rfl⟩, Or.inr (by rw [fileOf_of_not_mem hrel]; rfl)⟩

theorem legible_entityNode {rel : String} (hrel : ':' ∉ rel.toList) {e : Entity} (hname : '.' ∉ e.name.toList) :
    (entityNode rel e).Legible (entityNodeId rel e) := by
  refine ⟨rfl, Or.inr ⟨entityParentId rel e, rfl, ?_⟩, Or.inr (by rw [fileOf_entityNodeId hrel]; rfl)⟩
  unfold entityNodeId
  cases hparent : e.parent with
  | none =>
    have hfile : entityParentId rel e = rel := by rw [entityParentId, hparent]
    rw [hfile]
    exact .declaration e.name hrel hname rfl
  | some parent =>
    have hplace : entityParentId rel e = rel ++ ":" ++ Text.afterLast ':' parent := by rw [entityParentId, hparent]
    exact .member rel _ e.name hrel hname rfl hplace

theorem folderId_dropLast_eq {parts : List String} (h : ∀ n ∈ parts, IsComponent n) :
    folderId parts.dropLast = some (Path.ofString (relativeText parts)).parent.toString := by
  rw [folderId_dropLast, Path.ofString_relativeText h]

/-- The nodes of a file are legible if the names of its declarations have no dot. -/
theorem legible_of_mem_entities {rel : String} (hrel : ':' ∉ rel.toList) {entities : List Entity}
    (hnames : ∀ e ∈ entities, '.' ∉ e.name.toList) :
    ∀ n ∈ entities.map (entityNode rel), n.children = [] ∧ ∃ id, n.Legible id := by
  intro n hn
  obtain ⟨e, he, rfl⟩ := List.mem_map.mp hn
  exact ⟨rfl, _, legible_entityNode hrel (hnames e he)⟩

/-- The nodes of what a scan comes to are legible. -/
theorem Visit.legible_of_mem_nodes {s : Source} {v : Visit} (hparts : ∀ n ∈ v.parts, isPlainName n = true)
    (hnames : ∀ e ∈ v.entities s, '.' ∉ e.name.toList) :
    ∀ n ∈ v.nodes s, n.children = [] ∧ ∃ id, n.Legible id := by
  have hcomponents : ∀ n ∈ v.parts, IsComponent n := fun n hn =>
    isComponent_of_isFileName (isFileName_of_plain hparts n hn)
  have hcolon := colon_not_mem_relativeText hparts
  have hparent := folderId_dropLast_eq hcomponents
  intro n hn
  cases v with
  | folder parts =>
    rw [List.mem_singleton.mp hn, folderNode]
    refine ⟨rfl, relativeText parts, ?_⟩
    simp only [Visit.parts] at hparent hcolon
    rw [hparent]
    exact legible_folder hcolon _
  | file parts content =>
    simp only [Visit.parts] at hparent hcolon
    change n ∈ s.nodes parts content at hn
    change ∀ e ∈ s.entities (s.absolute parts) content, _ at hnames
    unfold Source.nodes at hn
    unfold Source.entities at hnames
    cases hl : Language.forPath? (s.absolute parts) with
    | none =>
      rw [hl] at hn
      cases hn
    | some l =>
      rw [hl] at hn hnames
      rcases List.mem_cons.mp hn with rfl | hn
      · rw [hparent]
        exact ⟨rfl, relativeText parts, legible_fileNode hcolon _ l _⟩
      · exact legible_of_mem_entities hcolon hnames n hn

/-! ## The steps -/

/-- Two graphs have nodes under the same keys. -/
def Graph.SameKeys (g known : Graph) : Prop :=
  ∀ k, g.contains k = known.contains k

/-- To attach a node that is put as well does not change where nodes are. -/
theorem Graph.SameKeys.link {g known : Graph} (h : SameKeys g known) (key : NodeId) (n : Node) :
    SameKeys ((g.put key n).modifyChildren n.parent (· ++ [key])) (known.put key n) := by
  intro k
  rw [contains_eq_isSome_bare?, contains_eq_isSome_bare?, bare?_modifyChildren, bare?_put, bare?_put]
  split
  · rfl
  · rw [← contains_eq_isSome_bare?, ← contains_eq_isSome_bare?, h]

namespace Graph.Regular

variable {g : Graph}

/-- What has no node is listed nowhere. -/
theorem not_listed (h : g.Regular) {c k : NodeId} (hc : g.find? c = none) {n : Node} (hn : g.find? k = some n) :
    c ∉ n.children := by
  intro hlisted
  obtain ⟨m, hm, -⟩ := h.listed hn hlisted
  cases hc.symm.trans hm

/-- **A scan leaves a graph regular.** -/
theorem build (h : g.Regular) {s : Source} {patterns : List String} {disk : Entry}
    (hnamed : disk.named isPlainName = true)
    (hnames : ∀ v ∈ visited s patterns disk, ∀ e ∈ v.entities s, '.' ∉ e.name.toList) :
    (g.applyAll (buildEdits s patterns disk).list).Regular := by
  rw [list_buildEdits]
  change ((g.put rootKey _).applyAll (linkEdits _)).Regular
  refine (h.put (legible_root s.path.name) rfl).linkAll ?_ ?_ (unfolds_visited hnamed)
  · -- the root starts with an empty list
    intro k hk n hn path _ hlisted
    rw [List.mem_singleton.mp hk, find?_put, if_pos (show rootKey = some "." from rfl)] at hn
    rw [← Option.some.inj hn] at hlisted
    cases hlisted
  · intro n hn
    obtain ⟨v, hv, hn⟩ := List.mem_flatMap.mp hn
    exact Visit.legible_of_mem_nodes (parts_of_mem_visited hnamed hv).2 (hnames v hv) n hn

/-- A missing directory that is put below the one above it leaves a graph regular. -/
theorem linkFolder (h : g.Regular) {parts : List String} (hparts : ∀ n ∈ parts, IsComponent n ∧ ':' ∉ n.toList)
    (hnew : g.contains (some (relativeText parts)) = false) (name : String) :
    ((g.put (some (relativeText parts))
      (.folder (some (relativeText parts)) name (folderId parts.dropLast))).modifyChildren
      (folderId parts.dropLast) (· ++ [some (relativeText parts)])).Regular := by
  have hcolon := colon_not_mem_relativeText_of_components fun n hn => (hparts n hn).2
  rw [folderId_dropLast_eq fun n hn => (hparts n hn).1]
  refine h.link (legible_folder hcolon name) rfl fun _ m hm => h.not_listed ?_ hm
  simpa [contains] using hnew

theorem addFoldersFrom (h : g.Regular) {known : Graph} (hknown : SameKeys g known)
    {todo done : List String} (hall : ∀ n ∈ done ++ todo, IsComponent n ∧ ':' ∉ n.toList) :
    (g.applyAll (known.addFoldersFrom (folderId done) (relativeText done) todo)).Regular := by
  -- on the directories that are left; what is known to be there is what is there
  induction todo generalizing g known done with
  | nil => exact h
  | cons part todo ih =>
    have hhere : ∀ n ∈ (done ++ [part]) ++ todo, IsComponent n ∧ ':' ∉ n.toList := by simpa using hall
    have hne : done ++ [part] ≠ [] := by simp
    have htext : (if (relativeText done).isEmpty then part else relativeText done ++ "/" ++ part) =
        relativeText (done ++ [part]) := by
      have hdone := relativeText_eq_empty_iff fun n hn => (hall n (List.mem_append_left _ hn)).1
      by_cases hnil : done = []
      · simp [hnil, relativeText, Text.joinWith, List.intercalate]
      · rw [if_neg (by simpa [hdone] using hnil), relativeText_append_singleton hnil]
    rw [Graph.addFoldersFrom, htext, ← folderId_of_ne_nil hne]
    split
    · exact ih h hknown hhere
    · next hmissing =>
      rw [folderId_of_ne_nil hne] at hmissing ⊢
      have hlink := h.linkFolder (fun n hn => hhere n (List.mem_append_left _ hn))
        (by rw [hknown]; exact Bool.eq_false_iff.mpr hmissing) part
      rw [List.dropLast_concat] at hlink
      have hnext := ih hlink (hknown.link (some (relativeText (done ++ [part])))
        (.folder (some (relativeText (done ++ [part]))) part (folderId done))) hhere
      rwa [folderId_of_ne_nil hne] at hnext

/-- **To put the directories above a file leaves a graph regular.** -/
theorem addFolders (h : g.Regular) {rel : String} (hroot : (Path.ofString rel).root = "") (hrel : ':' ∉ rel.toList) :
    (g.applyAll (g.addFolders (Path.ofString rel))).Regular := by
  change (g.applyAll (g.addFoldersFrom (folderId []) (relativeText []) (Path.ofString rel).allParts.dropLast)).Regular
  refine h.addFoldersFrom (fun _ => rfl) fun n hn => ?_
  have hparts : n ∈ Path.components rel := by
    rw [List.nil_append, Path.allParts, hroot] at hn
    exact List.mem_of_mem_dropLast hn
  exact ⟨Path.isComponent_of_mem_components hparts, fun hcolon => hrel (Path.mem_of_mem_components hparts hcolon)⟩

/-- **To add a file, or to add it again, leaves a graph regular**, also if the node above is missing. -/
theorem addFile (h : g.Regular) {rel : String} (hrel : ':' ∉ rel.toList) (s : Source) (disk : Entry)
    (parts : List String) {file : Path}
    (hnames : ∀ e ∈ s.entities file (disk.readFile s.asUser parts), '.' ∉ e.name.toList) :
    (g.applyAll (g.addFile s disk parts file rel (some (Path.ofString rel).parent.toString)).list).Regular := by
  have hremoved := h.removeFile hrel
  -- the file has no node any more
  have hgone : (g.applyAll (g.removeFile rel)).find? (some rel) = none := by
    have hbare := bare?_removeFile h.distinct rel (some rel)
    have hnone : (g.bare? (some rel)).filter (fun n => !(n.filePath == some rel || some rel == some rel)) = none := by
      simp
    rw [hnone] at hbare
    exact Option.map_eq_none_iff.mp hbare
  unfold Source.entities at hnames
  unfold Graph.addFile
  cases hl : Language.forPath? file with
  | none => exact hremoved
  | some l =>
    rw [hl] at hnames
    simp only
    split
    · change (g.applyAll (g.removeFile rel ++ _)).Regular
      rw [fileEdits_eq_linkEdits, applyAll, List.foldl_append]
      have hlegible := legible_fileNode hrel file l (l.outline s.read file (disk.readFile s.asUser parts))
      have hlink := hremoved.link hlegible rfl fun _ m hm => hremoved.not_listed hgone hm
      exact hlink.linkAll (fun k hk => (List.not_mem_nil hk).elim) (legible_of_mem_entities hrel hnames)
        (unfolds_entities rel _)
    · change (g.applyAll (g.removeFile rel ++ _)).Regular
      rw [applyAll, List.foldl_append]
      exact hremoved.put (legible_fileNode hrel file l _) rfl

end Graph.Regular

/-! ## Growing -/

namespace Growth

/-- The declarations that a step finds. -/
def entities : Growth → List Entity
  | .build s patterns disk => (visited s patterns disk).flatMap (Visit.entities s)
  | .folders _ => []
  | .add s disk rel =>
    let path := Path.ofString rel
    s.entities (s.path.append path) (disk.readFile s.asUser path.parts)

/-- Whether the paths of a step are relative, and have no colon. -/
def hasPlainPaths : Growth → Bool
  | .build _ _ disk => disk.named isPlainName
  | .folders rel => (Path.ofString rel).root == "" && !Text.hasChar ':' rel
  | .add _ _ rel => !Text.hasChar ':' rel

/-- No path of a step has a colon, and no declaration that it finds has a dot in its name. -/
def Plain (step : Growth) : Prop :=
  step.hasPlainPaths = true ∧ ∀ e ∈ step.entities, '.' ∉ e.name.toList

instance (step : Growth) : Decidable step.Plain :=
  inferInstanceAs (Decidable (_ ∧ _))

end Growth

namespace Graph.Regular

variable {g : Graph}

/-- A step leaves a graph regular. -/
theorem grow (h : g.Regular) {step : Growth} (hstep : step.Plain) : (g.grow step).Regular := by
  obtain ⟨hpaths, hnames⟩ := hstep
  cases step with
  | build s patterns disk =>
    exact h.build hpaths fun v hv e he => hnames e (List.mem_flatMap.mpr ⟨v, hv, he⟩)
  | folders rel =>
    have hrel : (Path.ofString rel).root = "" ∧ ':' ∉ rel.toList := by
      simpa [Growth.hasPlainPaths, Text.hasChar] using hpaths
    exact h.addFolders hrel.1 hrel.2
  | add s disk rel =>
    have hrel : ':' ∉ rel.toList := by
      simpa [Growth.hasPlainPaths, Text.hasChar] using hpaths
    exact h.addFile hrel s disk _ hnames

/-- A graph stays regular while it grows. -/
theorem growAll (h : g.Regular) {steps : List Growth} (hsteps : ∀ step ∈ steps, step.Plain) :
    (g.growAll steps).Regular := by
  induction steps generalizing g with
  | nil => exact h
  | cons step steps ih =>
    rw [List.forall_mem_cons] at hsteps
    exact ih (h.grow hsteps.1) hsteps.2

end Graph.Regular

/-- **Lists of children never dangle.** A graph has grown in any steps, in which no path has a colon and no declaration a
dot in its name. Then every node stands under its own identifier. Every identifier that a node lists has a node, and that
node names the first one as the node above it. A directory or a file is listed once at most. -/
theorem children_growAll {steps : List Growth} (h : ∀ step ∈ steps, step.Plain) :
    let g := Graph.empty.growAll steps
    g.keys.Nodup ∧ ∀ k n, g.find? k = some n →
      n.id = k ∧ (∀ c ∈ n.children, ∃ m, g.find? c = some m ∧ m.parent = k) ∧
        ∀ path : String, ':' ∉ path.toList → n.children.count (some path) ≤ 1 := by
  intro g
  have hg : g.Regular := Graph.regular_empty.growAll h
  refine ⟨hg.distinct, fun k n hn => ⟨?_, fun c hc => hg.listed hn hc, fun path hpath => hg.once hn hpath⟩⟩
  obtain ⟨id, rfl, hlegible⟩ := hg.legible hn
  exact hlegible.id_eq

namespace Sample

/-- A file that declares a function twice is scanned, and added again after it was changed. Then the directories above a
file that is not there are put, and a file without them is added, which fails. In the end the project is scanned with a
pattern, and the file that was left out is added. -/
def regrowth : List Growth :=
  let before := folder [("lib", folder [("a.py", file "fetch fetch load")])]
  let after := folder [("lib", folder [("a.py", file "fetch"), ("b.py", file "save save")])]
  [.build words [] before, .add words after "lib/a.py", .folders "lib/new/c.py", .add words after "gone/d.py",
    .build words ["b.py"] after, .add words after "lib/b.py"]

end Sample

/-- In the example a function is listed twice below its file, a directory that is not there any more is listed nowhere,
and no list dangles. -/
theorem children_sample_regrowth :
    let g := Graph.empty.growAll Sample.regrowth
    (g.find? (some "lib")).map (·.children) = some [some "lib/a.py", some "lib/b.py"] ∧
      (g.find? (some "lib/b.py")).map (·.children) = some [some "lib/b.py:save", some "lib/b.py:save"] ∧
      (g.find? (some "lib/new")).map (·.parent) = some (some "lib") ∧
      ∀ k n, g.find? k = some n →
        n.id = k ∧ ∀ c ∈ n.children, ∃ m, g.find? c = some m ∧ m.parent = k := by
  intro g
  have hplain : ∀ step ∈ Sample.regrowth, step.Plain := by decide +kernel
  obtain ⟨-, hlists⟩ := children_growAll hplain
  obtain ⟨hlib, hfile, hnew⟩ : (g.find? (some "lib")).map (·.children) = some [some "lib/a.py", some "lib/b.py"] ∧
      (g.find? (some "lib/b.py")).map (·.children) = some [some "lib/b.py:save", some "lib/b.py:save"] ∧
      (g.find? (some "lib/new")).map (·.parent) = some (some "lib") := by
    decide +kernel
  exact ⟨hlib, hfile, hnew, fun k n hn => ⟨(hlists k n hn).1, (hlists k n hn).2.1⟩⟩

end CodeAtlas
