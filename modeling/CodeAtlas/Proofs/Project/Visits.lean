import Mathlib
import CodeAtlas.Proofs.Project.Listed

/-!
# What a scan comes to

A scan walks through the directories of a project. It passes over what a pattern leaves out, and it does not enter a
directory that may not be listed. What it comes to are directories and files, and each of them gives a block of nodes.
This holds for any patterns. If one of them has no components, the scan fails at the first item that no earlier pattern
leaves out, before it has put any node but the root.

A directory is come to before everything in it, and nothing is come to twice. So the nodes of a scan unfold from the root.

## Main definitions

* `Visit`: a directory or a file that a scan comes to
* `Visit.nodes`, `Visit.entities`: the nodes it gives, and the declarations among them
* `visited`: what the scan of a project comes to

## Main results

* `list_buildEdits`: the edits of a scan are the root and then the blocks of what it comes to
* `parts_of_mem_visited`: the components of what a scan comes to
* `unfolds_visited`: the nodes of a scan unfold from the root
-/

namespace CodeAtlas

/-! ## Patterns -/

theorem Path.matches?_eq_none_iff {p : Path} {pattern : String} :
    p.matches? pattern = none ↔ (ofString pattern).allParts.isEmpty = true := by
  unfold matches?
  simp only
  split
  · simp_all
  · split <;> simp_all

/-- If a scan fails at some path, it puts no path at all. -/
theorem isExcluded_ne_of_error {patterns : List String} {p : Path} {failure : Failure}
    (h : isExcluded patterns p = .error failure) (q : Path) : isExcluded patterns q ≠ .ok false := by
  induction patterns with
  | nil => cases h
  | cons pattern rest ih =>
    rw [isExcluded] at h ⊢
    cases hq : q.matches? pattern with
    | none => simp
    | some b =>
      cases b with
      | true => simp
      | false =>
        -- the pattern has components, so it is not the one that fails
        cases hp : p.matches? pattern with
        | none =>
          rw [Path.matches?_eq_none_iff.mpr (Path.matches?_eq_none_iff.mp hp)] at hq
          cases hq
        | some b' =>
          cases b' with
          | true => simp [hp] at h
          | false => exact ih (by simpa [hp] using h)

/-! ## Directories and files -/

/-- What a scan comes to. -/
inductive Visit where
  /-- A directory. -/
  | folder (parts : List String)
  /-- A file, and its content if it may be read. -/
  | file (parts : List String) (content : Option ByteArray)

/-- The declarations of a file with some content. -/
def Source.entities (s : Source) (file : Path) (content : Option ByteArray) : List Entity :=
  match Language.forPath? file with
  | some l => (l.outline s.read file content).entities
  | none => []

/-- The nodes of a file with some content. A file in no language has none. -/
def Source.nodes (s : Source) (parts : List String) (content : Option ByteArray) : List Node :=
  match Language.forPath? (s.absolute parts) with
  | some l =>
    fileNodes (s.absolute parts) (relativeText parts) (folderId parts.dropLast) l
      (l.outline s.read (s.absolute parts) content)
  | none => []

namespace Visit

/-- The components. -/
def parts : Visit → List String
  | folder parts => parts
  | file parts _ => parts

/-- The declarations of a file. -/
def entities (s : Source) : Visit → List Entity
  | folder _ => []
  | file parts content => s.entities (s.absolute parts) content

/-- The nodes it gives. -/
def nodes (s : Source) : Visit → List Node
  | folder parts => [folderNode parts]
  | file parts content => s.nodes parts content

end Visit

/-- Whether a scan passes over what stands at some components. -/
def Source.omits (s : Source) (patterns : List String) (parts : List String) : Bool :=
  match isExcluded patterns (s.absolute parts) with
  | .ok false => false
  | _ => true

mutual

/-- What a scan comes to at and below an entry, which stands at some components. -/
def visitsBelow (s : Source) (patterns : List String) (parts : List String) : Entry → List Visit
  | .file content locked =>
    if s.omits patterns parts then [] else [.file parts (Entry.content? s.asUser (.file content locked))]
  | .folder items locked =>
    if s.omits patterns parts then []
    else .folder parts :: if s.asUser && locked then [] else visitsAmong s patterns parts items

/-- What a scan comes to at and below some items of a directory. -/
def visitsAmong (s : Source) (patterns : List String) (parts : List String) : List (String × Entry) → List Visit
  | [] => []
  | (name, e) :: rest => visitsBelow s patterns (parts ++ [name]) e ++ visitsAmong s patterns parts rest

end

/-- What the scan of a project comes to below the root. -/
def visited (s : Source) (patterns : List String) (disk : Entry) : List Visit :=
  match disk.listing? s.asUser with
  | some items => visitsAmong s (if patterns.isEmpty then defaultExcludes else patterns) [] items
  | none => []

/-! ## The edits of a scan -/

section Edits

variable {s : Source} {patterns : List String}

theorem linkEdits_append (ms ns : List Node) : linkEdits (ms ++ ns) = linkEdits ms ++ linkEdits ns :=
  List.flatMap_append

theorem visitsBelow_of_omits {parts : List String} (h : s.omits patterns parts = true) (e : Entry) :
    visitsBelow s patterns parts e = [] := by
  cases e <;> simp [visitsBelow, h]

theorem visitsAmong_of_omits (h : ∀ parts, s.omits patterns parts = true) (parts : List String)
    (items : List (String × Entry)) : visitsAmong s patterns parts items = [] := by
  induction items with
  | nil => rfl
  | cons item rest ih => rw [visitsAmong, visitsBelow_of_omits (h _), ih, List.nil_append]

theorem omits_of_ok {parts : List String} {b : Bool} (h : isExcluded patterns (s.absolute parts) = .ok b) :
    s.omits patterns parts = b := by
  rw [Source.omits, h]
  cases b <;> rfl

/-- If a scan fails, it comes to nothing. -/
theorem omits_of_error {p : Path} {failure : Failure} (h : isExcluded patterns p = .error failure)
    (parts : List String) : s.omits patterns parts = true := by
  unfold Source.omits
  split
  · next hok => exact absurd hok (isExcluded_ne_of_error h _)
  · rfl

/-- The nodes of an item of a directory. -/
abbrev nodesBelow (s : Source) (patterns : List String) (parts : List String) (e : Entry) : List Node :=
  (visitsBelow s patterns parts e).flatMap (Visit.nodes s)

/-- The nodes of some items of a directory. -/
abbrev nodesAmong (s : Source) (patterns : List String) (parts : List String) (items : List (String × Entry)) :
    List Node :=
  (visitsAmong s patterns parts items).flatMap (Visit.nodes s)

mutual

theorem list_scanItem : ∀ (e : Entry) (parts : List String) (name : String),
    (scanItem s patterns parts (folderId parts) name e).list = linkEdits (nodesBelow s patterns (parts ++ [name]) e) ∧
      ((scanItem s patterns parts (folderId parts) name e).failure = none ∨ ∀ q, s.omits patterns q = true)
  | .file content locked, parts, name => by
    unfold scanItem
    simp only [nodesBelow, visitsBelow]
    cases hexcluded : isExcluded patterns (s.absolute (parts ++ [name])) with
    | error failure => exact ⟨by rw [omits_of_error hexcluded]; rfl, Or.inr fun q => omits_of_error hexcluded q⟩
    | ok b =>
      rw [omits_of_ok hexcluded]
      cases b with
      | true => exact ⟨rfl, Or.inl rfl⟩
      | false =>
        rw [if_neg Bool.false_ne_true, List.flatMap_singleton, Visit.nodes]
        unfold Source.nodes
        generalize Language.forPath? (s.absolute (parts ++ [name])) = l?
        rw [List.dropLast_concat]
        cases l? with
        | none => exact ⟨rfl, Or.inl rfl⟩
        | some l => exact ⟨fileEdits_eq_linkEdits _ _ _ _ _, Or.inl rfl⟩
  | .folder items locked, parts, name => by
    have hne : parts ++ [name] ≠ [] := by simp
    unfold scanItem
    simp only [nodesBelow, visitsBelow]
    cases hexcluded : isExcluded patterns (s.absolute (parts ++ [name])) with
    | error failure => exact ⟨by rw [omits_of_error hexcluded]; rfl, Or.inr fun q => omits_of_error hexcluded q⟩
    | ok b =>
      rw [omits_of_ok hexcluded]
      cases b with
      | true => exact ⟨rfl, Or.inl rfl⟩
      | false =>
        have hitems := list_scanItems items (parts ++ [name])
        rw [folderId_of_ne_nil hne] at hitems
        simp only [Bool.false_eq_true, if_false, List.flatMap_cons, Visit.nodes, folderNode, List.getLastD_concat,
          List.dropLast_concat]
        rw [Edits.andThen_of_ok rfl]
        split
        · exact ⟨rfl, Or.inl rfl⟩
        · refine ⟨?_, hitems.2⟩
          simp only [hitems.1]
          rfl

theorem list_scanItems : ∀ (items : List (String × Entry)) (parts : List String),
    (scanItems s patterns parts (folderId parts) items).list = linkEdits (nodesAmong s patterns parts items) ∧
      ((scanItems s patterns parts (folderId parts) items).failure = none ∨ ∀ q, s.omits patterns q = true)
  | [], parts => by
    unfold scanItems
    exact ⟨rfl, Or.inl rfl⟩
  | (name, e) :: rest, parts => by
    obtain ⟨hlist, hfailure⟩ := list_scanItem e parts name
    obtain ⟨hlists, hfailures⟩ := list_scanItems rest parts
    unfold scanItems
    rw [nodesAmong, visitsAmong, List.flatMap_append, linkEdits_append]
    unfold Edits.andThen
    split
    · next failure hsome =>
      -- the scan stops here, and there is nothing to come
      have homits : ∀ q, s.omits patterns q = true := hfailure.resolve_left (by simp [hsome])
      rw [visitsAmong_of_omits homits]
      exact ⟨by rw [hlist]; simp [linkEdits], Or.inr homits⟩
    · exact ⟨by rw [← hlist, ← hlists], hfailures⟩

end

/-- **The edits of a scan** are the root, and then the blocks of what it comes to. -/
theorem list_buildEdits (s : Source) (patterns : List String) (disk : Entry) :
    (buildEdits s patterns disk).list =
      .put Graph.rootKey (.folder Graph.rootKey s.path.name none) ::
        linkEdits ((visited s patterns disk).flatMap (Visit.nodes s)) := by
  unfold buildEdits visited
  generalize (if patterns.isEmpty then defaultExcludes else patterns) = used
  rw [Edits.andThen_of_ok rfl]
  cases disk.listing? s.asUser with
  | none => rfl
  | some items =>
    have hlist : (scanItems s used [] Graph.rootKey items).list = linkEdits (nodesAmong s used [] items) :=
      (list_scanItems items []).1
    simp only [hlist]
    rfl

end Edits

/-! ## The components of what a scan comes to -/

section Parts

variable {s : Source} {patterns : List String} {accepted : String → Bool}

mutual

theorem parts_of_mem_visitsBelow : ∀ (e : Entry) (parts : List String) (v : Visit), e.named accepted = true →
    v ∈ visitsBelow s patterns parts e → ∃ rest, v.parts = parts ++ rest ∧ ∀ n ∈ rest, accepted n = true
  | .file content locked, parts, v, hnamed, hv => by
    rw [visitsBelow] at hv
    split at hv
    · cases hv
    · rw [List.mem_singleton.mp hv]
      exact ⟨[], (List.append_nil parts).symm, List.forall_mem_nil _⟩
  | .folder items locked, parts, v, hnamed, hv => by
    rw [visitsBelow] at hv
    split at hv
    · cases hv
    rcases List.mem_cons.mp hv with rfl | hv
    · exact ⟨[], (List.append_nil parts).symm, List.forall_mem_nil _⟩
    split at hv
    · cases hv
    · obtain ⟨name, rest, -, hparts, hnames⟩ := parts_of_mem_visitsAmong items parts v hnamed hv
      exact ⟨name :: rest, hparts, hnames⟩

theorem parts_of_mem_visitsAmong : ∀ (items : List (String × Entry)) (parts : List String) (v : Visit),
    namedItems accepted items = true → v ∈ visitsAmong s patterns parts items →
      ∃ name rest, (∃ e, (name, e) ∈ items) ∧ v.parts = parts ++ name :: rest ∧ ∀ n ∈ name :: rest, accepted n = true
  | [], parts, v, hnamed, hv => by
    rw [visitsAmong] at hv
    cases hv
  | (name, e) :: others, parts, v, hnamed, hv => by
    obtain ⟨hname, -, he, hothers⟩ := namedItems_cons.mp hnamed
    rw [visitsAmong] at hv
    rcases List.mem_append.mp hv with hv | hv
    · obtain ⟨rest, hparts, hrest⟩ := parts_of_mem_visitsBelow e (parts ++ [name]) v he hv
      refine ⟨name, rest, ⟨e, List.mem_cons_self⟩, ?_, List.forall_mem_cons.mpr ⟨hname, hrest⟩⟩
      rw [hparts, List.append_assoc]
      rfl
    · obtain ⟨other, rest, ⟨d, hd⟩, hparts, hnames⟩ := parts_of_mem_visitsAmong others parts v hothers hv
      exact ⟨other, rest, ⟨d, List.mem_cons_of_mem _ hd⟩, hparts, hnames⟩

end

theorem namedItems_of_listing? {disk : Entry} (hnamed : disk.named accepted = true) {asUser : Bool}
    {items : List (String × Entry)} (h : disk.listing? asUser = some items) : namedItems accepted items = true := by
  cases disk with
  | file content locked => cases h
  | folder listed locked =>
    rw [Entry.listing?] at h
    split at h
    · cases h
    · rw [← Option.some.inj h]
      exact hnamed

/-- **The components of what a scan comes to** are names of items. -/
theorem parts_of_mem_visited {disk : Entry} (hnamed : disk.named accepted = true) {v : Visit}
    (hv : v ∈ visited s patterns disk) : v.parts ≠ [] ∧ ∀ n ∈ v.parts, accepted n = true := by
  unfold visited at hv
  split at hv
  · next items hlisting =>
    obtain ⟨name, rest, -, hparts, hnames⟩ :=
      parts_of_mem_visitsAmong items [] v (namedItems_of_listing? hnamed hlisting) hv
    rw [hparts, List.nil_append]
    exact ⟨by simp, hnames⟩
  · cases hv

end Parts

/-! ## The order of the nodes -/

/-- The declarations of a file unfold from anything. -/
theorem unfolds_entities (rel : String) (entities : List Entity) {before : List NodeId} :
    Unfolds before (entities.map (entityNode rel)) := by
  refine unfolds_of_no_path fun n hn path hid => ?_
  obtain ⟨e, -, rfl⟩ := List.mem_map.mp hn
  obtain ⟨rest, hrest⟩ := entityNodeId_eq rel e
  rw [← Option.some.inj hid, hrest]
  simp

namespace Visit

variable {s : Source} {v : Visit}

/-- The nodes of a visit stand under the text of its components, or have a colon in their identifiers. -/
theorem id_of_mem_nodes {n : Node} (hn : n ∈ v.nodes s) :
    n.id = some (relativeText v.parts) ∨ ∃ e, n = entityNode (relativeText v.parts) e := by
  cases v with
  | folder parts =>
    rw [List.mem_singleton.mp hn]
    exact Or.inl rfl
  | file parts content =>
    change n ∈ s.nodes parts content at hn
    unfold Source.nodes at hn
    split at hn
    · rcases List.mem_cons.mp hn with rfl | hn
      · exact Or.inl rfl
      · obtain ⟨e, -, rfl⟩ := List.mem_map.mp hn
        exact Or.inr ⟨e, rfl⟩
    · cases hn

/-- The nodes of a visit unfold if its directory is there and it is new. -/
theorem unfolds_nodes (v : Visit) {before : List NodeId} (hparent : folderId v.parts.dropLast ∈ before)
    (hnew : some (relativeText v.parts) ∉ before) : Unfolds before (v.nodes s) := by
  cases v with
  | folder parts => exact .cons (fun _ _ _ => ⟨hnew, hparent⟩) .nil
  | file parts content =>
    change Unfolds before (s.nodes parts content)
    unfold Source.nodes
    split
    · exact .cons (fun _ _ _ => ⟨hnew, hparent⟩) (unfolds_entities (relativeText parts) _)
    · exact .nil

end Visit

/-- An identifier of a directory or file at or below some components. -/
def Within (parts : List String) (k : NodeId) : Prop :=
  ∃ rest, k = some (relativeText (parts ++ rest)) ∧ ∀ n ∈ rest, isPlainName n = true

theorem Within.refl (parts : List String) : Within parts (some (relativeText parts)) :=
  ⟨[], by simp, List.forall_mem_nil _⟩

theorem Within.of_append {parts : List String} {name : String} (hname : isPlainName name = true) {k : NodeId}
    (h : Within (parts ++ [name]) k) : Within parts k := by
  obtain ⟨rest, rfl, hrest⟩ := h
  exact ⟨name :: rest, by simp, List.forall_mem_cons.mpr ⟨hname, hrest⟩⟩

/-- No identifier is below two items of a directory. -/
theorem Within.name_eq {parts : List String} (hparts : ∀ n ∈ parts, isPlainName n = true) {name other : String}
    (hname : isPlainName name = true) (hother : isPlainName other = true) {k : NodeId}
    (h : Within (parts ++ [name]) k) (h' : Within (parts ++ [other]) k) : name = other := by
  obtain ⟨rest, rfl, hrest⟩ := h
  obtain ⟨rest', heq, hrest'⟩ := h'
  rw [List.append_assoc, List.append_assoc, List.singleton_append, List.singleton_append] at heq
  have hplain : ∀ x ∈ parts ++ name :: rest, isPlainName x = true :=
    List.forall_mem_append.mpr ⟨hparts, List.forall_mem_cons.mpr ⟨hname, hrest⟩⟩
  have hplain' : ∀ x ∈ parts ++ other :: rest', isPlainName x = true :=
    List.forall_mem_append.mpr ⟨hparts, List.forall_mem_cons.mpr ⟨hother, hrest'⟩⟩
  have hlists := relativeText_inj (isFileName_of_plain hplain) (isFileName_of_plain hplain') (Option.some.inj heq)
  exact (List.cons.inj (List.append_cancel_left hlists)).1

section Order

variable {s : Source} {patterns : List String}

/-- A declaration is within no components, and any other node of a visit within its own. -/
theorem within_of_mem_nodesBelow {e : Entry} {parts : List String} (hnamed : e.named isPlainName = true)
    {n : Node} (hn : n ∈ nodesBelow s patterns parts e) {q : List String} (hq : ∀ x ∈ q, isPlainName x = true)
    (hwithin : Within q n.id) : Within parts n.id := by
  obtain ⟨v, hv, hn⟩ := List.mem_flatMap.mp hn
  obtain ⟨rest, hparts, hrest⟩ := parts_of_mem_visitsBelow e parts v hnamed hv
  rcases Visit.id_of_mem_nodes hn with hid | ⟨entity, rfl⟩
  · exact ⟨rest, by rw [hid, hparts], hrest⟩
  · obtain ⟨deep, hid, hdeep⟩ := hwithin
    obtain ⟨last, hlast⟩ := entityNodeId_eq (relativeText v.parts) entity
    have hcolon := colon_not_mem_relativeText (List.forall_mem_append.mpr ⟨hq, hdeep⟩)
    rw [← Option.some.inj hid, hlast] at hcolon
    simp at hcolon

mutual

theorem unfolds_visitsBelow : ∀ (e : Entry) (parts : List String) (before : List NodeId),
    e.named isPlainName = true → parts ≠ [] → (∀ n ∈ parts, isPlainName n = true) →
    folderId parts.dropLast ∈ before → (∀ k ∈ before, ¬Within parts k) → Unfolds before (nodesBelow s patterns parts e)
  | .file content locked, parts, before, hnamed, hne, hparts, hparent, hnew => by
    have hself : Within parts (some (relativeText parts)) := Within.refl parts
    rw [nodesBelow, visitsBelow]
    split
    · exact .nil
    · rw [List.flatMap_singleton]
      exact Visit.unfolds_nodes (.file parts _) hparent fun hm => hnew _ hm hself
  | .folder items locked, parts, before, hnamed, hne, hparts, hparent, hnew => by
    have hself : Within parts (some (relativeText parts)) := Within.refl parts
    rw [nodesBelow, visitsBelow]
    split
    · exact .nil
    rw [List.flatMap_cons]
    refine unfolds_append.mpr ⟨Visit.unfolds_nodes (.folder parts) hparent fun hm => hnew _ hm hself, ?_⟩
    split
    · exact .nil
    · -- the directory is there now, and its own identifier is below none of its items
      refine unfolds_visitsAmong items parts _ hnamed hparts ?_ fun name hname k hk hwithin => ?_
      · rw [folderId_of_ne_nil hne]
        exact List.mem_append_left _ (by simp [Visit.nodes, folderNode, Node.folder])
      · rcases List.mem_append.mp hk with hk | hk
        · have hk : k = some (relativeText parts) := by
            simpa [Visit.nodes, folderNode, Node.folder] using hk
          obtain ⟨rest, hrest, hplain⟩ := hwithin
          rw [hk] at hrest
          have hall : ∀ x ∈ parts ++ [name] ++ rest, isPlainName x = true :=
            List.forall_mem_append.mpr
              ⟨List.forall_mem_append.mpr ⟨hparts, List.forall_mem_singleton.mpr hname.1⟩, hplain⟩
          have hlength := congrArg List.length (relativeText_inj (isFileName_of_plain hparts)
            (isFileName_of_plain hall) (Option.some.inj hrest))
          simp at hlength
        · exact hnew k hk (hwithin.of_append hname.1)

theorem unfolds_visitsAmong : ∀ (items : List (String × Entry)) (parts : List String) (before : List NodeId),
    namedItems isPlainName items = true → (∀ n ∈ parts, isPlainName n = true) → folderId parts ∈ before →
    (∀ name, isPlainName name = true ∧ (∃ e, (name, e) ∈ items) → ∀ k ∈ before, ¬Within (parts ++ [name]) k) →
      Unfolds before (nodesAmong s patterns parts items)
  | [], parts, before, hnamed, hparts, hparent, hnew => .nil
  | (name, e) :: others, parts, before, hnamed, hparts, hparent, hnew => by
    obtain ⟨hname, hunique, he, hothers⟩ := namedItems_cons.mp hnamed
    have hhere : ∀ n ∈ parts ++ [name], isPlainName n = true :=
      List.forall_mem_append.mpr ⟨hparts, List.forall_mem_singleton.mpr hname⟩
    rw [nodesAmong, visitsAmong, List.flatMap_append]
    refine unfolds_append.mpr ⟨unfolds_visitsBelow e (parts ++ [name]) before he (by simp) hhere ?_ ?_, ?_⟩
    · rwa [List.dropLast_concat]
    · exact hnew name ⟨hname, e, List.mem_cons_self⟩
    · refine unfolds_visitsAmong others parts _ hothers hparts (List.mem_append_right _ hparent) ?_
      rintro other ⟨hother, d, hd⟩ k hk hwithin
      rcases List.mem_append.mp hk with hk | hk
      · -- what was put for this item is not below another one
        obtain ⟨n, hn, rfl⟩ := List.mem_map.mp (List.mem_reverse.mp hk)
        have hplain : ∀ x ∈ parts ++ [other], isPlainName x = true :=
          List.forall_mem_append.mpr ⟨hparts, List.forall_mem_singleton.mpr hother⟩
        have hthis := within_of_mem_nodesBelow he hn hplain hwithin
        obtain rfl := Within.name_eq hparts hname hother hthis hwithin
        exact hunique d hd
      · exact hnew other ⟨hother, d, List.mem_cons_of_mem _ hd⟩ k hk hwithin

end

/-- **The nodes of a scan unfold from the root.** -/
theorem unfolds_visited {disk : Entry} (hnamed : disk.named isPlainName = true) :
    Unfolds [Graph.rootKey] ((visited s patterns disk).flatMap (Visit.nodes s)) := by
  unfold visited
  split
  · next items hlisting =>
    refine unfolds_visitsAmong items [] _ (namedItems_of_listing? hnamed hlisting) (List.forall_mem_nil _) (by simp) ?_
    rintro name ⟨hname, -⟩ k hk ⟨rest, hrest, hplain⟩
    -- the text of components is not a dot
    have hall : ∀ x ∈ [] ++ [name] ++ rest, isPlainName x = true :=
      List.forall_mem_append.mpr ⟨by simpa using hname, hplain⟩
    rw [List.mem_singleton.mp hk] at hrest
    exact relativeText_ne_dot (isFileName_of_plain hall) (Option.some.inj hrest).symm
  · exact .nil

end Order

end CodeAtlas
