import Mathlib
import CodeAtlas.Proofs.Project.Places

/-!
# A project as it is scanned

Scanning a project and listing its source files leave out the same items: the usual patterns are single components,
and a path matches one of them if its last component does. So the scan of a project is a block of edits for each place
without a component that is left out.

## Main definitions

* `Entry.readable`: everything below an entry may be read
* `Source.placeEdits`: the edits that put a place
* `isScanned`: whether no component of a place is left out

## Main results

* `isExcluded_defaultExcludes`: the usual patterns leave out what `isExcludedPart` says
* `buildEdits_eq`: the edits of the scan of a project that may be read
-/

namespace CodeAtlas

/-! ## Patterns -/

namespace Glob

/-- Whether every character of a component pattern stands for itself. -/
def isLiteral (pattern : String) : Bool :=
  pattern.toList.all fun c => c != '*' && c != '?' && c != '['

theorem readFrom_literal {cs : List Char} (h : ∀ c ∈ cs, c ≠ '*' ∧ c ≠ '?' ∧ c ≠ '[') {fuel : Nat}
    (hfuel : cs.length ≤ fuel) : readFrom fuel cs = cs.map .exactly := by
  induction cs generalizing fuel with
  | nil => cases fuel <;> rfl
  | cons c cs ih =>
    obtain ⟨hstar, hany, hset⟩ := h c List.mem_cons_self
    cases fuel with
    | zero => simp at hfuel
    | succ fuel =>
      rw [readFrom, if_neg hstar, if_neg hany, if_neg hset, List.map_cons,
        ih (fun d hd => h d (List.mem_cons_of_mem _ hd)) (by simpa using hfuel)]

theorem matchPieces_literal (cs name : List Char) : matchPieces (cs.map .exactly) name = true ↔ name = cs := by
  induction cs generalizing name with
  | nil => simp [matchPieces]
  | cons c cs ih =>
    cases name with
    | nil => simp [matchPieces]
    | cons d name => simp [matchPieces, Piece.accepts, ih]

theorem matchPieces_star_literal (cs name : List Char) :
    matchPieces (.star :: cs.map .exactly) name = true ↔ cs <:+ name := by
  induction name with
  | nil =>
    rw [matchPieces, matchPieces_literal, List.suffix_nil]
    exact eq_comm
  | cons d name ih =>
    rw [matchPieces, Bool.or_eq_true, matchPieces_literal, ih, List.suffix_cons_iff]
    exact or_congr eq_comm Iff.rfl

theorem fits_of_literal {pattern : String} (h : isLiteral pattern = true) (name : String) :
    fits pattern name = true ↔ name = pattern := by
  have hchars : ∀ c ∈ pattern.toList, c ≠ '*' ∧ c ≠ '?' ∧ c ≠ '[' := by
    simpa [isLiteral, and_assoc] using h
  rw [fits, read, readFrom_literal hchars String.length_toList.le, matchPieces_literal, String.toList_inj]

/-- A star and literal characters fit the names that end in the characters. -/
theorem fits_star {pattern ending : String} (hpattern : pattern.toList = '*' :: ending.toList)
    (h : isLiteral ending = true) (name : String) : fits pattern name = true ↔ ending.toList <:+ name.toList := by
  have hchars : ∀ c ∈ ending.toList, c ≠ '*' ∧ c ≠ '?' ∧ c ≠ '[' := by
    simpa [isLiteral, and_assoc] using h
  have hlength : pattern.length = ending.toList.length + 1 := by
    rw [← String.length_toList, hpattern, List.length_cons]
  rw [fits, read, hpattern, hlength, readFrom, if_pos rfl, readFrom_literal hchars le_rfl, matchPieces_star_literal]

end Glob

theorem Path.ofString_of_fileName {name : String} (h : isFileName name = true) : Path.ofString name = ⟨"", [name]⟩ := by
  have hslash : name.toList.takeWhile (· == '/') = [] := by
    obtain ⟨-, -, -, hs⟩ := isFileName_iff.mp h
    rw [List.takeWhile_eq_nil_iff]
    intro hpos hc
    exact hs (by rw [← beq_iff_eq.mp hc]; exact List.getElem_mem hpos)
  have hcomponents : Path.components name = [name] := by
    have hnames : ∀ n ∈ [name], isFileName n = true := by simpa using h
    simpa using components_relativeText hnames
  simp [Path.ofString, hslash, hcomponents]

/-- A pattern of one component is compared with the last component of a path. -/
theorem Path.matches?_of_fileName {pattern : String} (h : isFileName pattern = true) {p : Path} (hp : p.parts ≠ []) :
    p.matches? pattern = some (Glob.fits pattern p.name) := by
  obtain ⟨front, last, hparts⟩ : ∃ front last, p.parts = front ++ [last] :=
    ⟨_, _, (List.dropLast_append_getLast hp).symm⟩
  obtain ⟨before, hall⟩ : ∃ before, p.allParts = before ++ [last] := by
    rw [allParts, hparts]
    split
    · exact ⟨front, rfl⟩
    · exact ⟨p.root :: front, rfl⟩
  have hname : p.name = last := by simp [name, hparts]
  have hpattern : (⟨"", [pattern]⟩ : Path).allParts = [pattern] := rfl
  rw [matches?, ofString_of_fileName h]
  simp [hpattern, hall, hname]

theorem isExcluded_eq_any {patterns : List String} (h : ∀ q ∈ patterns, isFileName q = true) {p : Path}
    (hp : p.parts ≠ []) : isExcluded patterns p = .ok (patterns.any (Glob.fits · p.name)) := by
  induction patterns with
  | nil => rfl
  | cons q rest ih =>
    rw [isExcluded, Path.matches?_of_fileName (h q List.mem_cons_self) hp, List.any_cons]
    cases Glob.fits q p.name with
    | true => rfl
    | false => exact ih fun r hr => h r (List.mem_cons_of_mem _ hr)

theorem any_fits_defaultExcludes (name : String) : defaultExcludes.any (Glob.fits · name) = isExcludedPart name := by
  -- only one of the patterns has a wildcard
  have hliteral : ∀ q ∈ defaultExcludes, q = "*.egg-info" ∨ Glob.isLiteral q = true := by decide +kernel
  have hstar : Glob.fits "*.egg-info" name = true ↔ packageDataSuffix.toList <:+ name.toList :=
    Glob.fits_star (by decide +kernel) (by decide +kernel) name
  rw [Bool.eq_iff_iff, List.any_eq_true, isExcludedPart, Bool.or_eq_true, List.contains_iff_mem,
    List.isSuffixOf_iff_suffix]
  constructor
  · rintro ⟨q, hq, hfits⟩
    rcases hliteral q hq with rfl | hl
    · exact Or.inr (hstar.mp hfits)
    · rw [(Glob.fits_of_literal hl name).mp hfits]
      exact Or.inl hq
  · rintro (hmem | hsuffix)
    · rcases hliteral name hmem with rfl | hl
      · exact ⟨_, hmem, hstar.mpr (by decide +kernel)⟩
      · exact ⟨name, hmem, (Glob.fits_of_literal hl name).mpr rfl⟩
    · exact ⟨"*.egg-info", by decide +kernel, hstar.mpr hsuffix⟩

/-- **The usual patterns leave out a path by its last component.** -/
theorem isExcluded_defaultExcludes {p : Path} (hp : p.parts ≠ []) :
    isExcluded defaultExcludes p = .ok (isExcludedPart p.name) := by
  have hnames : ∀ q ∈ defaultExcludes, isFileName q = true := by decide +kernel
  rw [isExcluded_eq_any hnames hp, any_fits_defaultExcludes]

/-! ## Projects that may be read -/

mutual

/-- Whether everything at and below an entry may be read. -/
def Entry.readable (asUser : Bool) : Entry → Bool
  | .file _ locked => !(asUser && locked)
  | .folder items locked => !(asUser && locked) && readableItems asUser items

/-- Whether everything at and below some items may be read. -/
def readableItems (asUser : Bool) : List (String × Entry) → Bool
  | [] => true
  | (_, e) :: rest => e.readable asUser && readableItems asUser rest

end

mutual

/-- Everything may be read if locks do not count. -/
theorem Entry.readable_false : ∀ e : Entry, e.readable false = true
  | .file _ _ => rfl
  | .folder items _ => readableItems_false items

theorem readableItems_false : ∀ items : List (String × Entry), readableItems false items = true
  | [] => rfl
  | (_, e) :: rest => by rw [readableItems, e.readable_false, readableItems_false rest, Bool.and_self]

end

/-! ## Blocks of edits -/

variable {s : Source}

theorem name_absolute (s : Source) (parts : List String) (name : String) :
    (s.absolute (parts ++ [name])).name = name := by
  simp [Source.absolute, Path.name]

/-- The language of a file hangs on its last component. -/
theorem forPath?_absolute (s : Source) {parts : List String} (hne : parts ≠ []) :
    Language.forPath? (s.absolute parts) = Language.forPath? (.relative parts) := by
  obtain ⟨front, last, rfl⟩ : ∃ front last, parts = front ++ [last] :=
    ⟨_, _, (List.dropLast_append_getLast hne).symm⟩
  have hsuffix :
      Language.suffixOf (s.absolute (front ++ [last])) = Language.suffixOf (.relative (front ++ [last])) := by
    rw [Language.suffixOf, Language.suffixOf, Path.suffix, Path.suffix, name_absolute]
    simp [Path.name, Path.relative]
  unfold Language.forPath? Language.supports
  rw [hsuffix]

/-- The edits that put a file with some content. -/
def Source.fileEdits (s : Source) (parts : List String) (content : ByteArray) : List Edit :=
  match Language.forPath? (s.absolute parts) with
  | some l =>
    CodeAtlas.fileEdits (s.absolute parts) (relativeText parts) (folderId parts.dropLast) l
      (l.outline s.read (s.absolute parts) (some content))
  | none => []

/-- The node of a directory. -/
def folderNode (parts : List String) : Node :=
  .folder (some (relativeText parts)) (parts.getLastD "") (folderId parts.dropLast)

/-- The edits that put a directory. -/
def folderEdits (parts : List String) : List Edit :=
  [.put (some (relativeText parts)) (folderNode parts), .attach (folderId parts.dropLast) (some (relativeText parts))]

/-- The edits that put a place. -/
def Source.placeEdits (s : Source) : List String × Entry → List Edit
  | (parts, .file content _) => s.fileEdits parts content
  | (parts, .folder _ _) => folderEdits parts

theorem Source.placeEdits_file (s : Source) (parts : List String) (content : ByteArray) (locked : Bool) :
    s.placeEdits (parts, .file content locked) = s.fileEdits parts content := rfl

theorem Source.placeEdits_folder (s : Source) (parts : List String) (items : List (String × Entry)) (locked : Bool) :
    s.placeEdits (parts, .folder items locked) = folderEdits parts := rfl

/-- Whether no component of a place is left out. -/
def isScanned (place : List String × Entry) : Bool :=
  !place.1.any isExcludedPart

mutual

theorem prefix_of_mem_placesBelow : ∀ (e : Entry) (parts : List String),
    ∀ place ∈ placesBelow parts e, parts <+: place.1
  | .file content locked, parts, place, hm => by
    rw [List.mem_singleton.mp hm]
  | .folder items locked, parts, place, hm => by
    rcases List.mem_cons.mp hm with rfl | hm
    · exact List.prefix_refl parts
    · exact prefix_of_mem_placesAmong items parts place hm

theorem prefix_of_mem_placesAmong : ∀ (items : List (String × Entry)) (parts : List String),
    ∀ place ∈ placesAmong parts items, parts <+: place.1
  | [], parts, place, hm => by cases hm
  | (name, e) :: others, parts, place, hm => by
    rcases List.mem_append.mp hm with hm | hm
    · exact (List.prefix_append parts [name]).trans (prefix_of_mem_placesBelow e (parts ++ [name]) place hm)
    · exact prefix_of_mem_placesAmong others parts place hm

end

/-- What stands below an item that is left out is left out too. -/
theorem filter_isScanned_of_excluded {parts : List String} (h : parts.any isExcludedPart = true) (e : Entry) :
    (placesBelow parts e).filter isScanned = [] := by
  rw [List.filter_eq_nil_iff]
  intro place hm
  obtain ⟨rest, hrest⟩ := prefix_of_mem_placesBelow e parts place hm
  simp [isScanned, ← hrest, h]

theorem any_concat_of_excluded (parts : List String) {name : String} (h : isExcludedPart name = true) :
    (parts ++ [name]).any isExcludedPart = true := by
  rw [List.any_append, List.any_cons, h, Bool.true_or, Bool.or_true]

theorem any_concat_of_scanned {parts : List String} {name : String} (hparts : parts.any isExcludedPart = false)
    (h : isExcludedPart name = false) : (parts ++ [name]).any isExcludedPart = false := by
  rw [List.any_append, List.any_cons, h, hparts, Bool.false_or, Bool.false_or, List.any_nil]

theorem isScanned_concat {parts : List String} {name : String} (hparts : parts.any isExcludedPart = false)
    (h : isExcludedPart name = false) (e : Entry) : isScanned (parts ++ [name], e) = true := by
  rw [isScanned, any_concat_of_scanned hparts h, Bool.not_false]

theorem Edits.andThen_of_ok {a : Edits} {b : Unit → Edits} (ha : a.failure = .none) :
    a.andThen b = ⟨a.list ++ (b ()).list, (b ()).failure⟩ := by
  rw [andThen, ha]

theorem isExcluded_item (s : Source) (parts : List String) (name : String) :
    isExcluded defaultExcludes (s.absolute (parts ++ [name])) = .ok (isExcludedPart name) := by
  have hne : (s.absolute (parts ++ [name])).parts ≠ [] := by simp [Source.absolute]
  rw [isExcluded_defaultExcludes hne, name_absolute]

theorem scanItem_of_excluded {name : String} (h : isExcludedPart name = true) (parts : List String) (parent : NodeId)
    (e : Entry) : scanItem s defaultExcludes parts parent name e = .none := by
  unfold scanItem
  cases e <;> simp only [isExcluded_item, h]

theorem scanItem_file {name : String} (h : isExcludedPart name = false) (parts : List String) (content : ByteArray)
    {locked : Bool} (hopen : (Entry.file content locked).readable s.asUser = true) :
    scanItem s defaultExcludes parts (folderId parts) name (.file content locked) =
      .ofList (s.fileEdits (parts ++ [name]) content) := by
  have hcontent : Entry.content? s.asUser (.file content locked) = some content := by
    rw [Entry.readable, Bool.not_eq_true'] at hopen
    rw [Entry.content?, hopen, if_neg Bool.false_ne_true]
  unfold scanItem Source.fileEdits
  simp only [isExcluded_item, h, hcontent, List.dropLast_concat]
  generalize Language.forPath? (s.absolute (parts ++ [name])) = l?
  cases l? with
  | some l => rfl
  | none => rfl

theorem scanItem_folder {name : String} (h : isExcludedPart name = false) (parts : List String)
    {items : List (String × Entry)} {locked : Bool} (hopen : (Entry.folder items locked).readable s.asUser = true) :
    scanItem s defaultExcludes parts (folderId parts) name (.folder items locked) =
      (Edits.ofList (folderEdits (parts ++ [name]))).andThen fun _ =>
        scanItems s defaultExcludes (parts ++ [name]) (folderId (parts ++ [name])) items := by
  have hne : parts ++ [name] ≠ [] := by simp
  rw [Entry.readable, Bool.and_eq_true, Bool.not_eq_true'] at hopen
  unfold scanItem
  rw [folderEdits, folderNode, List.dropLast_concat, folderId_of_ne_nil hne]
  simp only [isExcluded_item, h, hopen.1, Bool.false_eq_true, if_false, List.getLastD_concat]

mutual

/-- The scan of an item is the blocks of the places at and below it that are not left out. -/
theorem scanItem_eq : ∀ (e : Entry) (parts : List String) (name : String), e.readable s.asUser = true →
    parts.any isExcludedPart = false →
      scanItem s defaultExcludes parts (folderId parts) name e =
        .ofList (((placesBelow (parts ++ [name]) e).filter isScanned).flatMap s.placeEdits)
  | .file content locked, parts, name, hopen, hparts => by
    cases hname : isExcludedPart name with
    | true =>
      rw [scanItem_of_excluded hname, filter_isScanned_of_excluded (any_concat_of_excluded parts hname)]
      rfl
    | false =>
      have hscanned : isScanned (parts ++ [name], .file content locked) = true :=
        isScanned_concat hparts hname _
      rw [scanItem_file hname parts content hopen, placesBelow, List.filter_cons_of_pos hscanned, List.filter_nil,
        List.flatMap_cons, List.flatMap_nil, List.append_nil, Source.placeEdits_file]
  | .folder items locked, parts, name, hopen, hparts => by
    cases hname : isExcludedPart name with
    | true =>
      rw [scanItem_of_excluded hname, filter_isScanned_of_excluded (any_concat_of_excluded parts hname)]
      rfl
    | false =>
      have hhere : (parts ++ [name]).any isExcludedPart = false := any_concat_of_scanned hparts hname
      have hscanned : isScanned (parts ++ [name], .folder items locked) = true :=
        isScanned_concat hparts hname _
      have hitems : readableItems s.asUser items = true := by
        rw [Entry.readable, Bool.and_eq_true] at hopen
        exact hopen.2
      rw [scanItem_folder hname parts hopen, scanItems_eq items (parts ++ [name]) hitems hhere, Edits.andThen_of_ok rfl,
        placesBelow, List.filter_cons_of_pos hscanned, List.flatMap_cons]
      rfl

/-- The scan of the items of a directory is the blocks of the places among them that are not left out. -/
theorem scanItems_eq : ∀ (items : List (String × Entry)) (parts : List String), readableItems s.asUser items = true →
    parts.any isExcludedPart = false →
      scanItems s defaultExcludes parts (folderId parts) items =
        .ofList (((placesAmong parts items).filter isScanned).flatMap s.placeEdits)
  | [], parts, _, _ => rfl
  | (name, e) :: others, parts, hopen, hparts => by
    rw [readableItems, Bool.and_eq_true] at hopen
    unfold scanItems
    rw [scanItem_eq e parts name hopen.1 hparts, Edits.andThen_of_ok rfl, scanItems_eq others parts hopen.2 hparts,
      placesAmong, List.filter_append, List.flatMap_append]
    rfl

end

/-- The edits that put the root. -/
def Source.rootEdits (s : Source) : List Edit :=
  [.put Graph.rootKey (.folder Graph.rootKey s.path.name none)]

/-- **The scan of a project** that may be read puts the root and then, block by block, the places that are not left
out. -/
theorem buildEdits_eq {disk : Entry} (h : disk.readable s.asUser = true) :
    buildEdits s [] disk = .ofList (s.rootEdits ++ (disk.places.filter isScanned).flatMap s.placeEdits) := by
  unfold buildEdits
  rw [Edits.andThen_of_ok rfl]
  cases disk with
  | file content locked => rfl
  | folder items locked =>
    rw [Entry.readable, Bool.and_eq_true, Bool.not_eq_true'] at h
    have hlisting : (Entry.folder items locked).listing? s.asUser = some items := by
      rw [Entry.listing?, h.1, if_neg Bool.false_ne_true]
    have hitems := scanItems_eq items [] h.2 rfl
    rw [folderId_nil] at hitems
    simp only [hlisting, List.isEmpty_nil, if_true, hitems]
    rfl

end CodeAtlas
