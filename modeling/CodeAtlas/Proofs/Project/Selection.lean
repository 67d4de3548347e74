import Mathlib
import CodeAtlas.Proofs.Project.History

/-!
# The files that are selected

A project is scanned directory by directory, and what a pattern matches is left out with everything below it. Indexing
the changes lists all files first, and then leaves out those with an excluded component. Both select the same files,
whatever their names are.

Names with colons need an argument of their own. The identifier of a declaration continues the path of its file with a
colon, and another file may have just that path: the declaration `b.py` of a file `a.py` and a file `a.py:b.py` share a
key. But a scan goes through the items of a directory in the order of their names, so it comes to a file before it comes
to anything whose path continues the path of the file. What a scan puts under the path of a file last is the file.

## Main definitions

* `Entry.sorted`: the items of every directory stand in the order of their names

## Main results

* `Entry.sorted_change`: changes of files and directories keep their order
* `pairwise_places`: the places of a project come in the order of their components
* `lt_of_relativeText_continues`: a path that continues another one with a colon comes later
* `file_built_iff_mem_sourcePaths`: scanning a project and listing its source files select the same files
-/

namespace CodeAtlas

/-! ## The order of items -/

mutual

/-- Whether the items of every directory stand in the order of their names. -/
def Entry.sorted : Entry → Bool
  | .file _ _ => true
  | .folder items _ => sortedItems items

/-- Whether some items stand in the order of their names, and so do the items below them. -/
def sortedItems : List (String × Entry) → Bool
  | [] => true
  | (name, e) :: rest => rest.all (fun item => name < item.1) && e.sorted && sortedItems rest

end

theorem sortedItems_cons {name : String} {e : Entry} {rest : List (String × Entry)} :
    sortedItems ((name, e) :: rest) = true ↔
      (∀ item ∈ rest, name < item.1) ∧ e.sorted = true ∧ sortedItems rest = true := by
  simp only [sortedItems, Bool.and_eq_true, List.all_eq_true, decide_eq_true_eq, and_assoc]

namespace Entry

theorem mem_putItem {name : String} {e : Entry} {items : List (String × Entry)} {item : String × Entry}
    (h : item ∈ putItem name e items) : item = (name, e) ∨ item ∈ items := by
  induction items with
  | nil => exact Or.inl (List.mem_singleton.mp h)
  | cons first rest ih =>
    obtain ⟨n, d⟩ := first
    rw [putItem] at h
    split at h
    · exact (List.mem_cons.mp h).imp_right (List.mem_cons_of_mem _)
    split at h
    · exact List.mem_cons.mp h
    · rcases List.mem_cons.mp h with rfl | h
      · exact Or.inr List.mem_cons_self
      · exact (ih h).imp_right (List.mem_cons_of_mem _)

theorem sortedItems_putItem {name : String} {e : Entry} (he : e.sorted = true) {items : List (String × Entry)}
    (h : sortedItems items = true) : sortedItems (putItem name e items) = true := by
  induction items with
  | nil => exact sortedItems_cons.mpr ⟨by simp, he, rfl⟩
  | cons first rest ih =>
    obtain ⟨n, d⟩ := first
    obtain ⟨hless, hd, hrest⟩ := sortedItems_cons.mp h
    rw [putItem]
    split
    · -- the item takes the place of the first one
      next heq => exact sortedItems_cons.mpr ⟨heq ▸ hless, he, hrest⟩
    split
    · -- it goes before all others
      next hlt =>
      refine sortedItems_cons.mpr ⟨fun item hm => ?_, he, h⟩
      rcases List.mem_cons.mp hm with rfl | hm
      · exact hlt
      · exact hlt.trans (hless item hm)
    · -- it goes somewhere behind the first one
      next hne hnlt =>
      refine sortedItems_cons.mpr ⟨fun item hm => ?_, hd, ih hrest⟩
      rcases mem_putItem hm with rfl | hm
      · exact lt_of_le_of_ne (not_lt.mp hnlt) hne
      · exact hless item hm

theorem sortedItems_filter {items : List (String × Entry)} (h : sortedItems items = true)
    (p : String × Entry → Bool) : sortedItems (items.filter p) = true := by
  induction items with
  | nil => rfl
  | cons first rest ih =>
    obtain ⟨n, d⟩ := first
    obtain ⟨hless, hd, hrest⟩ := sortedItems_cons.mp h
    rw [List.filter_cons]
    split
    · exact sortedItems_cons.mpr ⟨fun item hm => hless item (List.mem_filter.mp hm).1, hd, ih hrest⟩
    · exact ih hrest

theorem sorted_of_lookup {items : List (String × Entry)} (h : sortedItems items = true) (name : String) :
    ∀ d ∈ items.lookup name, d.sorted = true := by
  induction items with
  | nil => simp
  | cons first rest ih =>
    obtain ⟨n, e⟩ := first
    obtain ⟨-, he, hrest⟩ := sortedItems_cons.mp h
    intro d hd
    rw [List.lookup_cons] at hd
    split at hd
    · obtain rfl := Option.some.inj hd
      exact he
    · exact ih hrest d hd

theorem sorted_alter {f : Option Entry → Option Entry}
    (hf : ∀ d?, (∀ d ∈ d?, d.sorted = true) → ∀ d ∈ f d?, d.sorted = true) (parts : List String) {e? : Option Entry}
    (h : ∀ e ∈ e?, e.sorted = true) : ∀ e ∈ alter f parts e?, e.sorted = true := by
  induction parts generalizing e? with
  | nil => exact hf e? h
  | cons part parts ih =>
    -- a directory that is missing is made
    have hhere : (e?.getD empty).sorted = true := by
      cases e? with
      | none => rfl
      | some e => exact h e rfl
    rw [alter]
    split
    · exact h
    · next items locked heq =>
      rw [heq] at hhere
      have hbelow := ih (sorted_of_lookup hhere part)
      split
      · next d hd =>
        rintro e ⟨⟩
        exact sortedItems_putItem (hbelow d hd) hhere
      · rintro e ⟨⟩
        exact sortedItems_filter hhere _

/-- **Changes of files and directories keep the order of the items.** -/
theorem sorted_change {f : Option Entry → Option Entry}
    (hf : ∀ d?, (∀ d ∈ d?, d.sorted = true) → ∀ d ∈ f d?, d.sorted = true) (parts : List String) {e : Entry}
    (h : e.sorted = true) : (e.change parts f).sorted = true := by
  have halter : ∀ d ∈ alter f parts (some e), d.sorted = true := by
    refine sorted_alter hf parts ?_
    rintro d ⟨⟩
    exact h
  rw [change]
  cases hd : alter f parts (some e) with
  | none => rfl
  | some d => exact halter d hd

theorem sorted_write (parts : List String) (content : ByteArray) {e : Entry} (h : e.sorted = true) :
    (e.write parts content).sorted = true := by
  refine sorted_change (fun d? hd? d hd => ?_) parts h
  split at hd
  · obtain rfl := Option.some.inj hd
    rfl
  · obtain rfl := Option.some.inj hd
    exact hd? _ rfl
  · obtain rfl := Option.some.inj hd
    rfl

theorem sorted_remove (parts : List String) {e : Entry} (h : e.sorted = true) : (e.remove parts).sorted = true := by
  unfold remove
  split
  · exact sorted_change (fun d? _ d hd => by cases hd) parts h
  · exact h

end Entry

/-! ## The order of places -/

theorem append_lt_append_of_lt (parts : List String) {name name' : String} (h : name < name') (rest rest' : List String) :
    parts ++ name :: rest < parts ++ name' :: rest' :=
  List.Lex.append_left (· < ·) (.rel h) parts

theorem lt_append_cons (parts : List String) (name : String) (rest : List String) : parts < parts ++ name :: rest := by
  have hlex := List.Lex.append_left (· < ·) (List.Lex.nil (r := (· < ·)) (a := name) (l := rest)) parts
  rwa [List.append_nil] at hlex

mutual

theorem pairwise_placesBelow : ∀ (e : Entry) (parts : List String), e.named isFileName = true → e.sorted = true →
    (placesBelow parts e).Pairwise fun p q => p.1 < q.1
  | .file content locked, parts, _, _ => List.pairwise_singleton _ _
  | .folder items locked, parts, hn, hs => by
    refine List.pairwise_cons.mpr ⟨fun place hm => ?_, pairwise_placesAmong items parts hn hs⟩
    obtain ⟨name, e, rest, heq, -⟩ := walk_of_mem_among (by decide) items parts place.1 place.2 hn hm
    rw [heq]
    exact lt_append_cons parts name rest

theorem pairwise_placesAmong : ∀ (items : List (String × Entry)) (parts : List String),
    namedItems isFileName items = true → sortedItems items = true →
      (placesAmong parts items).Pairwise fun p q => p.1 < q.1
  | [], parts, _, _ => List.Pairwise.nil
  | (name, e) :: others, parts, hn, hs => by
    obtain ⟨-, -, he, hothers⟩ := namedItems_cons.mp hn
    obtain ⟨hless, hse, hsothers⟩ := sortedItems_cons.mp hs
    refine List.pairwise_append.mpr ⟨pairwise_placesBelow e (parts ++ [name]) he hse,
      pairwise_placesAmong others parts hothers hsothers, fun p hp q hq => ?_⟩
    -- what stands below an item comes before what stands below a later item
    obtain ⟨rest, heq, -⟩ := walk_of_mem_below (by decide) e (parts ++ [name]) p.1 p.2 he hp
    obtain ⟨name', e', rest', heq', hmem, -⟩ := walk_of_mem_among (by decide) others parts q.1 q.2 hothers hq
    rw [heq, heq', List.append_assoc, List.singleton_append]
    exact append_lt_append_of_lt parts (hless _ hmem) rest rest'

end

/-- **The places of a project come in the order of their components.** -/
theorem pairwise_places {disk : Entry} (hnamed : disk.named isFileName = true) (hsorted : disk.sorted = true) :
    disk.places.Pairwise fun p q => p.1 < q.1 := by
  cases disk with
  | file content locked => exact List.Pairwise.nil
  | folder items locked => exact pairwise_placesAmong items [] hnamed hsorted

/-! ## Paths that continue other paths -/

theorem Text.takeWhile_intercalate {p : List Char} (h : '/' ∉ p) (ps : List (List Char)) :
    (List.intercalate ['/'] (p :: ps)).takeWhile (· != '/') = p := by
  have hp : ∀ c ∈ p, (c != '/') = true := fun c hc => by
    simpa using fun he : c = '/' => h (he ▸ hc)
  by_cases hps : ps = []
  · subst hps
    rw [List.intercalate_singleton]
    exact List.takeWhile_eq_self_iff.mpr hp
  · rw [List.intercalate_cons_of_ne_nil hps, List.append_assoc, List.takeWhile_append_of_pos hp]
    simp

theorem lt_of_intercalate_continues {q parts : List String} (hne : q ≠ []) (hq : ∀ n ∈ q, '/' ∉ n.toList)
    (hparts : ∀ n ∈ parts, '/' ∉ n.toList) (rest : List Char)
    (h : List.intercalate ['/'] (q.map String.toList) ++ ':' :: rest =
      List.intercalate ['/'] (parts.map String.toList)) : q < parts := by
  induction q generalizing parts with
  | nil => exact absurd rfl hne
  | cons n q ih =>
    obtain ⟨hn, hq⟩ := List.forall_mem_cons.mp hq
    cases parts with
    | nil => simp [List.intercalate] at h
    | cons m parts =>
      obtain ⟨hm, hparts⟩ := List.forall_mem_cons.mp hparts
      -- the first components are what stands before the first slash
      have hfirst := congrArg (List.takeWhile (· != '/')) h
      rw [List.map_cons, List.map_cons, Text.takeWhile_intercalate hm] at hfirst
      have hpos : ∀ c ∈ n.toList, (c != '/') = true := fun c hc => by
        simpa using fun he : c = '/' => hn (he ▸ hc)
      by_cases hnil : q = []
      · -- the last component of `q` goes on with a colon in `parts`
        subst hnil
        refine List.Lex.rel ?_
        rw [String.lt_iff_toList_lt, ← hfirst, List.map_nil, List.intercalate_singleton,
          List.takeWhile_append_of_pos hpos]
        have hlex := List.Lex.append_left (· < ·)
          (List.Lex.nil (r := (· < ·)) (a := ':') (l := rest.takeWhile (· != '/'))) n.toList
        rw [List.append_nil] at hlex
        simpa using hlex
      · -- the components before it are the same in both paths
        have hmap : q.map String.toList ≠ [] := by simpa using hnil
        rw [List.intercalate_cons_of_ne_nil hmap, List.append_assoc, List.append_assoc,
          List.takeWhile_append_of_pos hpos] at hfirst
        have heq : n = m := String.toList_inj.mp (by simpa using hfirst)
        rw [← heq] at h ⊢
        rw [List.map_cons, List.map_cons, List.intercalate_cons_of_ne_nil hmap, List.append_assoc,
          List.append_assoc] at h
        by_cases hend : parts = []
        · -- the path that continues the other one would be shorter
          subst hend
          rw [List.map_nil, List.intercalate_singleton] at h
          have hlength := congrArg List.length h
          simp at hlength
        · have hmap' : parts.map String.toList ≠ [] := by simpa using hend
          rw [List.intercalate_cons_of_ne_nil hmap', List.append_assoc, List.append_cancel_left_eq,
            List.append_cancel_left_eq] at h
          exact List.Lex.cons (ih hnil hq hparts h)

/-- **A path that continues another one with a colon comes later.** -/
theorem lt_of_relativeText_continues {q parts : List String} (hne : q ≠ []) (hq : ∀ n ∈ q, isFileName n = true)
    (hparts : ∀ n ∈ parts, isFileName n = true) {rest : String}
    (h : relativeText q ++ ":" ++ rest = relativeText parts) : q < parts := by
  refine lt_of_intercalate_continues hne (fun n hn => (isFileName_iff.mp (hq n hn)).2.2.2)
    (fun n hn => (isFileName_iff.mp (hparts n hn)).2.2.2) rest.toList ?_
  have hchars := congrArg String.toList h
  rw [String.toList_append, String.toList_append, relativeText, relativeText, Text.toList_joinWith,
    Text.toList_joinWith, List.append_assoc] at hchars
  exact hchars

/-! ## The file nodes of a scanned project -/

theorem Node.folder_kind_ne (id : NodeId) (name : String) (parent : NodeId) :
    (Node.folder id name parent).kind ≠ some Node.fileKind := by
  simp [Node.folder, Node.folderKind, Node.fileKind]

/-- The last of several blocks that puts a node under a key decides. -/
theorem Edit.lastPut_flatMap_of_last {α : Type} {key : NodeId} {block : α → List Edit} {before after : List α} {a : α}
    {n : Node} (ha : lastPut key (block a) = some n) (hafter : ∀ b ∈ after, ∀ m, .put key m ∉ block b) :
    lastPut key ((before ++ a :: after).flatMap block) = some n := by
  have hnone : lastPut key (after.flatMap block) = none := by
    rw [Option.eq_none_iff_forall_not_mem]
    intro m hm
    obtain ⟨b, hb, hput⟩ := List.mem_flatMap.mp (mem_of_lastPut hm)
    exact hafter b hb m hput
  rw [List.flatMap_append, List.flatMap_cons, lastPut_append, lastPut_append, hnone, ha]
  rfl

section Built

variable {s : Source} {disk : Entry}

/-- The nodes of a scanned project are, apart from their children, those that were put last under their keys. -/
theorem exists_find?_built_iff (hs : disk.readable s.asUser = true) {k : NodeId} {kind : Option String} :
    (∃ n, (s.built disk).find? k = some n ∧ n.kind = kind) ↔
      ∃ n, Edit.lastPut k (s.rootEdits ++ (disk.places.filter isScanned).flatMap s.placeEdits) = some n ∧
        n.kind = kind := by
  have hkeeps : ∀ e ∈ (buildEdits s [] disk).list, e.keeps = true := by
    rw [buildEdits_eq hs]
    intro e he
    rcases List.mem_append.mp he with he | he
    · rw [List.mem_singleton.mp he]
      rfl
    · obtain ⟨place, -, he⟩ := List.mem_flatMap.mp he
      exact Indexable.keeps_of_mem_placeEdits place e he
  have hbare := Graph.bare?_applyAll hkeeps Graph.empty k
  rw [Graph.bare?_empty, Option.or_none, buildEdits_eq hs] at hbare
  -- the kind of a node has nothing to do with its children
  have hkinds := congrArg (Option.map Node.kind) hbare
  rw [Graph.bare?, Option.map_map, Option.map_map] at hkinds
  have hiff : ∀ n? : Option Node, (∃ n, n? = some n ∧ n.kind = kind) ↔ n?.map Node.kind = some kind := fun n? =>
    Option.map_eq_some_iff.symm
  rw [hiff, hiff, Source.built, buildEdits_eq hs]
  exact ⟨fun h => hkinds.symm.trans h, fun h => hkinds.trans h⟩

variable (hnamed : disk.named isFileName = true)

include hnamed

/-- A file node of a scanned project is the node of a source file. -/
theorem mem_sourcePaths_of_lastPut {k : NodeId} {n : Node}
    (hput : Edit.lastPut k (s.rootEdits ++ (disk.places.filter isScanned).flatMap s.placeEdits) = some n)
    (hkind : n.kind = some Node.fileKind) : ∃ path ∈ sourcePaths disk, k = some path := by
  rcases List.mem_append.mp (Edit.mem_of_lastPut hput) with hm | hm
  · -- the root is a directory
    obtain ⟨-, rfl⟩ := Edit.put.inj (List.mem_singleton.mp hm)
    exact absurd hkind (Node.folder_kind_ne _ _ _)
  obtain ⟨⟨parts, e⟩, hplace, hm⟩ := List.mem_flatMap.mp hm
  obtain ⟨hplace, hscanned⟩ := List.mem_filter.mp hplace
  cases e with
  | folder items locked =>
    simp only [Source.placeEdits_folder, folderEdits, List.mem_cons, List.not_mem_nil, or_false, reduceCtorEq] at hm
    obtain ⟨-, rfl⟩ := Edit.put.inj hm
    exact absurd hkind (Node.folder_kind_ne _ _ _)
  | file content locked =>
    rw [Source.placeEdits_file] at hm
    obtain ⟨l, hl, ⟨rfl, -⟩ | ⟨entity, -, -, rfl⟩⟩ := Source.put_mem_fileEdits hm
    · obtain ⟨hne, -⟩ := names_of_mem_places (by decide) hnamed hplace
      have hlanguage : (Language.forPath? (.relative parts)).isSome = true := by
        rw [← forPath?_absolute s hne, hl]
        rfl
      have hexcluded : parts.any isExcludedPart = false := by simpa [isScanned] using hscanned
      have hsource : parts ∈ sourceFiles disk := mem_sourceFiles.mpr ⟨⟨content, locked, hplace⟩, hlanguage, hexcluded⟩
      exact ⟨relativeText parts, mem_sourcePaths.mpr ⟨parts, hsource, rfl⟩, rfl⟩
    · exact absurd (Option.some.inj hkind) (Source.label_ne_fileKind entity.kind)

omit hnamed in
/-- The last node that a file puts under its path is its own. -/
theorem lastPut_fileEdits_self {parts : List String} (content : ByteArray)
    (hl : (Language.forPath? (s.absolute parts)).isSome = true) :
    ∃ n, Edit.lastPut (some (relativeText parts)) (s.fileEdits parts content) = some n ∧
      n.kind = some Node.fileKind := by
  obtain ⟨l, hl⟩ := Option.isSome_iff_exists.mp hl
  have hown : .put (some (relativeText parts)) (fileNode (s.absolute parts) (relativeText parts)
      (folderId parts.dropLast) l (l.outline s.read (s.absolute parts) (some content))) ∈ s.fileEdits parts content := by
    unfold Source.fileEdits
    rw [hl]
    exact List.mem_cons_self
  obtain ⟨n, hn⟩ := Option.isSome_iff_exists.mp (Edit.lastPut_isSome_of_mem hown)
  refine ⟨n, hn, ?_⟩
  -- the identifier of a declaration is never the path of its own file
  obtain ⟨l', -, ⟨-, rfl⟩ | ⟨entity, -, hkey, -⟩⟩ := Source.put_mem_fileEdits (Edit.mem_of_lastPut hn)
  · rfl
  · exact absurd (Option.some.inj hkey).symm (entityNodeId_ne _ entity)

/-- A place that comes after a file puts nothing under the path of the file. -/
theorem not_put_of_later {parts q : List String} {content : ByteArray}
    {locked : Bool} {e : Entry} (hfile : (parts, .file content locked) ∈ disk.places) (hplace : (q, e) ∈ disk.places)
    (hlater : parts < q) (n : Node) : .put (some (relativeText parts)) n ∉ s.placeEdits (q, e) := by
  obtain ⟨-, hparts⟩ := names_of_mem_places (by decide) hnamed hfile
  obtain ⟨hne, hq⟩ := names_of_mem_places (by decide) hnamed hplace
  have hother : relativeText parts ≠ relativeText q := fun heq =>
    hlater.ne (relativeText_inj hparts hq heq)
  intro hm
  cases e with
  | folder items locked' =>
    simp only [Source.placeEdits_folder, folderEdits, List.mem_cons, List.not_mem_nil, or_false, reduceCtorEq] at hm
    exact hother (Option.some.inj (Edit.put.inj hm).1)
  | file content' locked' =>
    rw [Source.placeEdits_file] at hm
    obtain ⟨l, -, ⟨hkey, -⟩ | ⟨entity, -, hkey, -⟩⟩ := Source.put_mem_fileEdits hm
    · exact hother (Option.some.inj hkey)
    · -- the path of the file would continue that of the later one, and so come after it
      obtain ⟨rest, hrest⟩ := entityNodeId_eq (relativeText q) entity
      have hcontinues : relativeText q ++ ":" ++ rest = relativeText parts := by
        rw [← hrest]
        exact (Option.some.inj hkey).symm
      exact lt_asymm hlater (lt_of_relativeText_continues hne hq hparts hcontinues)

theorem lastPut_built_of_source (hsorted : disk.sorted = true)
    {parts : List String} (hm : parts ∈ sourceFiles disk) :
    ∃ n, Edit.lastPut (some (relativeText parts))
        (s.rootEdits ++ (disk.places.filter isScanned).flatMap s.placeEdits) = some n ∧
      n.kind = some Node.fileKind := by
  obtain ⟨⟨content, locked, hplace⟩, hlanguage, hexcluded⟩ := mem_sourceFiles.mp hm
  have hscanned : isScanned (parts, .file content locked) = true := by
    rw [isScanned, hexcluded, Bool.not_false]
  have hne : parts ≠ [] := (names_of_mem_places (by decide) hnamed hplace).1
  rw [← forPath?_absolute s hne] at hlanguage
  obtain ⟨n, hn, hkind⟩ := lastPut_fileEdits_self content hlanguage
  have hpairwise : (disk.places.filter isScanned).Pairwise fun p q => p.1 < q.1 :=
    (pairwise_places hnamed hsorted).sublist List.filter_sublist
  have hsubset : ∀ place ∈ disk.places.filter isScanned, place ∈ disk.places :=
    fun place hp => (List.mem_filter.mp hp).1
  obtain ⟨before, after, hsplit⟩ := List.append_of_mem (List.mem_filter.mpr ⟨hplace, hscanned⟩)
  rw [hsplit] at hpairwise hsubset ⊢
  refine ⟨n, ?_, hkind⟩
  have hlast : Edit.lastPut (some (relativeText parts))
      ((before ++ (parts, .file content locked) :: after).flatMap s.placeEdits) = some n := by
    refine Edit.lastPut_flatMap_of_last hn fun place hp m => ?_
    have hlater := (List.pairwise_cons.mp (List.pairwise_append.mp hpairwise).2.1).1 place hp
    have hmem := hsubset place (List.mem_append_right _ (List.mem_cons_of_mem _ hp))
    exact not_put_of_later hnamed hplace hmem hlater m
  rw [Edit.lastPut_append, hlast]
  rfl

end Built

/-- **Scanning a project and listing its source files select the same files.** The scan does not fail, and the keys of
its file nodes are the paths of the source files. -/
theorem file_built_iff_mem_sourcePaths {s : Source} {disk : Entry} (hs : disk.readable s.asUser = true)
    (hnamed : disk.named isFileName = true) (hsorted : disk.sorted = true) :
    (buildEdits s [] disk).failure = none ∧
      ∀ k, (∃ n, (s.built disk).find? k = some n ∧ n.kind = some Node.fileKind) ↔
        ∃ path ∈ sourcePaths disk, k = some path := by
  refine ⟨by rw [buildEdits_eq hs]; rfl, fun k => ?_⟩
  rw [exists_find?_built_iff hs]
  constructor
  · rintro ⟨n, hn, hkind⟩
    exact mem_sourcePaths_of_lastPut hnamed hn hkind
  · rintro ⟨path, hpath, rfl⟩
    obtain ⟨parts, hm, rfl⟩ := mem_sourcePaths.mp hpath
    exact lastPut_built_of_source hnamed hsorted hm

/-- The file `a.py` declares `b.py`, and there is a file `a.py:b.py`: its key is that of a file node. Files below an
excluded directory and files of no known language are not selected. -/
theorem file_built_of_shared_key :
    let disk := Sample.folder [("a.py", Sample.file "b.py"), ("a.py:b.py", Sample.file "c"),
      ("build", Sample.folder [("d.py", Sample.file "")]), ("e.egg-info", Sample.file ""), ("f.txt", Sample.file "")]
    disk.readable Sample.words.asUser = true ∧ disk.named isFileName = true ∧ disk.sorted = true ∧
      ∀ k, (∃ n, (Sample.words.built disk).find? k = some n ∧ n.kind = some Node.fileKind) ↔
        k = some "a.py" ∨ k = some "a.py:b.py" := by
  intro disk
  have hreadable : disk.readable Sample.words.asUser = true := by decide +kernel
  have hnamed : disk.named isFileName = true := by decide +kernel
  have hsorted : disk.sorted = true := by decide +kernel
  have hpaths : sourcePaths disk = ["a.py", "a.py:b.py"] := by decide +kernel
  refine ⟨hreadable, hnamed, hsorted, fun k => ?_⟩
  rw [(file_built_iff_mem_sourcePaths (s := Sample.words) hreadable hnamed hsorted).2 k, hpaths]
  simp

end CodeAtlas
