import Mathlib
import CodeAtlas.Proofs.Project.Names
import CodeAtlas.Project.Index

/-!
# The places of a project

A place is a file or a directory of a project together with its components. If the items of every directory have
different names, each place is found again by walking down its components, so no place is both a file and a
directory, and no source file is met twice.

## Main definitions

* `Entry.places`: the places of a project
* `Entry.named`: the items of every directory have different names that are accepted

## Main results

* `walk_of_mem_places`: a place is found by walking down its components
* `mem_sourceFiles`: the source files among the places
* `nodup_sourceFiles`: no source file is met twice
-/

namespace CodeAtlas

mutual

/-- The places at and below an entry, which itself stands at some components. -/
def placesBelow (parts : List String) : Entry → List (List String × Entry)
  | .file content locked => [(parts, .file content locked)]
  | .folder items locked => (parts, .folder items locked) :: placesAmong parts items

/-- The places at and below some items of a directory. -/
def placesAmong (parts : List String) : List (String × Entry) → List (List String × Entry)
  | [] => []
  | (name, e) :: rest => placesBelow (parts ++ [name]) e ++ placesAmong parts rest

end

mutual

/-- Whether the items of every directory have different names that are accepted. -/
def Entry.named (accepted : String → Bool) : Entry → Bool
  | .file _ _ => true
  | .folder items _ => namedItems accepted items

/-- Whether some items have different names that are accepted, and so have the items below them. -/
def namedItems (accepted : String → Bool) : List (String × Entry) → Bool
  | [] => true
  | (name, e) :: rest => accepted name && !rest.any (·.1 == name) && e.named accepted && namedItems accepted rest

end

/-- The places of a project. -/
def Entry.places (disk : Entry) : List (List String × Entry) :=
  placesAmong [] disk.items

/-! ## Walking down to a place -/

section Walk

variable {accepted : String → Bool}

theorem namedItems_cons {name : String} {e : Entry} {rest : List (String × Entry)} :
    namedItems accepted ((name, e) :: rest) = true ↔
      accepted name = true ∧ (∀ d, (name, d) ∉ rest) ∧ e.named accepted = true ∧
        namedItems accepted rest = true := by
  simp only [namedItems, Bool.and_eq_true, Bool.not_eq_true', List.any_eq_false, beq_iff_eq, and_assoc]
  constructor
  · rintro ⟨hn, hd, he, hr⟩
    exact ⟨hn, fun d hm => hd (name, d) hm rfl, he, hr⟩
  · rintro ⟨hn, hd, he, hr⟩
    refine ⟨hn, ?_, he, hr⟩
    rintro ⟨n, d⟩ hm rfl
    exact hd d hm

theorem lookup_of_mem_items {items : List (String × Entry)} (h : namedItems accepted items = true)
    {name : String} {e : Entry} (hm : (name, e) ∈ items) : items.lookup name = some e := by
  induction items with
  | nil => cases hm
  | cons item rest ih =>
    obtain ⟨n, d⟩ := item
    obtain ⟨-, hd, -, hr⟩ := namedItems_cons.mp h
    rcases List.mem_cons.mp hm with heq | hm
    · obtain ⟨rfl, rfl⟩ := Prod.mk.inj heq
      simp
    · have hne : name ≠ n := fun he => hd e (he ▸ hm)
      rw [List.lookup_cons, beq_eq_false_iff_ne.mpr hne]
      exact ih hr hm

mutual

theorem walk_of_mem_below (up : accepted ".." = false) :
    ∀ (e : Entry) (parts q : List String) (d : Entry), e.named accepted = true → (q, d) ∈ placesBelow parts e →
      ∃ rest, q = parts ++ rest ∧ (∀ n ∈ rest, accepted n = true) ∧
        ∀ above, e.walk false above rest = some (some d)
  | .file content locked, parts, q, d, _, hm => by
    obtain ⟨rfl, rfl⟩ := Prod.mk.inj (List.mem_singleton.mp hm)
    exact ⟨[], by simp, by simp, fun _ => rfl⟩
  | .folder items locked, parts, q, d, hn, hm => by
    rcases List.mem_cons.mp hm with heq | hm
    · obtain ⟨rfl, rfl⟩ := Prod.mk.inj heq
      exact ⟨[], by simp, by simp, fun _ => rfl⟩
    · obtain ⟨name, e, rest, rfl, hmem, hname, hrest, hwalk⟩ := walk_of_mem_among up items parts q d hn hm
      refine ⟨name :: rest, rfl, ?_, fun above => ?_⟩
      · simpa using ⟨hname, hrest⟩
      · have hup : name ≠ ".." := fun he => by simp [he, up] at hname
        simp only [Entry.walk, Bool.false_and, Bool.false_eq_true, if_false, if_neg hup,
          lookup_of_mem_items hn hmem]
        exact hwalk _

theorem walk_of_mem_among (up : accepted ".." = false) :
    ∀ (items : List (String × Entry)) (parts q : List String) (d : Entry), namedItems accepted items = true →
      (q, d) ∈ placesAmong parts items →
      ∃ name e rest, q = parts ++ name :: rest ∧ (name, e) ∈ items ∧ accepted name = true ∧
        (∀ n ∈ rest, accepted n = true) ∧ ∀ above, e.walk false above rest = some (some d)
  | [], parts, q, d, _, hm => by cases hm
  | (name, e) :: others, parts, q, d, hn, hm => by
    obtain ⟨hname, -, he, hothers⟩ := namedItems_cons.mp hn
    rcases List.mem_append.mp hm with hm | hm
    · obtain ⟨rest, rfl, hrest, hwalk⟩ := walk_of_mem_below up e (parts ++ [name]) q d he hm
      exact ⟨name, e, rest, by simp, by simp, hname, hrest, hwalk⟩
    · obtain ⟨n, e', rest, rfl, hmem, hn', hrest, hwalk⟩ := walk_of_mem_among up others parts q d hothers hm
      exact ⟨n, e', rest, rfl, by simp [hmem], hn', hrest, hwalk⟩

end

variable {disk : Entry}

/-- **A place is found by walking down its components.** -/
theorem walk_of_mem_places (up : accepted ".." = false) (h : disk.named accepted = true)
    {parts : List String} {e : Entry} (hm : (parts, e) ∈ disk.places) :
    disk.walk false [] parts = some (some e) := by
  cases disk with
  | file content locked => cases hm
  | folder items locked =>
    obtain ⟨rest, heq, -, hwalk⟩ :=
      walk_of_mem_below up (.folder items locked) [] parts e h (List.mem_cons_of_mem _ hm)
    rw [List.nil_append] at heq
    exact heq ▸ hwalk []

theorem names_of_mem_places (up : accepted ".." = false) (h : disk.named accepted = true)
    {parts : List String} {e : Entry} (hm : (parts, e) ∈ disk.places) :
    parts ≠ [] ∧ ∀ n ∈ parts, accepted n = true := by
  cases disk with
  | file content locked => cases hm
  | folder items locked =>
    obtain ⟨name, d, rest, rfl, -, hname, hrest, -⟩ := walk_of_mem_among up items [] parts e h hm
    exact ⟨by simp, by simpa using ⟨hname, hrest⟩⟩

theorem place_unique (up : accepted ".." = false) (h : disk.named accepted = true) {parts : List String}
    {d e : Entry} (hd : (parts, d) ∈ disk.places) (he : (parts, e) ∈ disk.places) : d = e := by
  have := (walk_of_mem_places up h hd).symm.trans (walk_of_mem_places up h he)
  exact Option.some.inj (Option.some.inj this)

end Walk

/-! ## Directories above a place -/

mutual

theorem mem_placesBelow_above : ∀ (e : Entry) (parts q : List String) (d : Entry), (q, d) ∈ placesBelow parts e →
    q = parts ∨ ∃ items locked, (q.dropLast, .folder items locked) ∈ placesBelow parts e
  | .file content locked, parts, q, d, hm => by
    exact Or.inl (Prod.mk.inj (List.mem_singleton.mp hm)).1
  | .folder items locked, parts, q, d, hm => by
    rcases List.mem_cons.mp hm with heq | hm
    · exact Or.inl (Prod.mk.inj heq).1
    · rcases mem_placesAmong_above items parts q d hm with hq | ⟨items', locked', hq⟩
      · exact Or.inr ⟨items, locked, by rw [hq]; exact List.mem_cons_self⟩
      · exact Or.inr ⟨items', locked', List.mem_cons_of_mem _ hq⟩

theorem mem_placesAmong_above : ∀ (items : List (String × Entry)) (parts q : List String) (d : Entry),
    (q, d) ∈ placesAmong parts items →
      q.dropLast = parts ∨ ∃ items' locked, (q.dropLast, .folder items' locked) ∈ placesAmong parts items
  | [], parts, q, d, hm => by cases hm
  | (name, e) :: others, parts, q, d, hm => by
    rcases List.mem_append.mp hm with hm | hm
    · rcases mem_placesBelow_above e (parts ++ [name]) q d hm with rfl | ⟨items', locked, hq⟩
      · exact Or.inl List.dropLast_concat
      · exact Or.inr ⟨items', locked, List.mem_append_left _ hq⟩
    · rcases mem_placesAmong_above others parts q d hm with hq | ⟨items', locked, hq⟩
      · exact Or.inl hq
      · exact Or.inr ⟨items', locked, List.mem_append_right _ hq⟩

end

variable {disk : Entry}

theorem folder_above_of_mem_places {parts : List String} {e : Entry} (hm : (parts, e) ∈ disk.places) :
    parts.dropLast = [] ∨ ∃ items locked, (parts.dropLast, .folder items locked) ∈ disk.places :=
  mem_placesAmong_above disk.items [] parts e hm

/-- All components above a place are those of a directory. -/
theorem folder_of_append_mem_places {q rest : List String} (hq : q ≠ []) (hrest : rest ≠ []) {e : Entry}
    (hm : (q ++ rest, e) ∈ disk.places) : ∃ items locked, (q, .folder items locked) ∈ disk.places := by
  induction rest using List.reverseRecOn generalizing e with
  | nil => exact absurd rfl hrest
  | append_singleton front last ih =>
    have habove := folder_above_of_mem_places hm
    rw [← List.append_assoc, List.dropLast_concat] at habove
    rcases habove with hnil | ⟨items, locked, hfolder⟩
    · exact absurd (List.append_eq_nil_iff.mp hnil).1 hq
    · by_cases hfront : front = []
      · rw [hfront, List.append_nil] at hfolder
        exact ⟨items, locked, hfolder⟩
      · exact ih hfront hfolder

/-! ## Source files -/

mutual

theorem mem_filesBelow : ∀ (e : Entry) (parts q : List String),
    q ∈ filesBelow parts e ↔ ∃ content locked, (q, .file content locked) ∈ placesBelow parts e
  | .file content locked, parts, q => by simp [filesBelow, placesBelow]
  | .folder items locked, parts, q => by
    rw [filesBelow, placesBelow, mem_filesAmong items parts q]
    simp

theorem mem_filesAmong : ∀ (items : List (String × Entry)) (parts q : List String),
    q ∈ filesAmong parts items ↔ ∃ content locked, (q, .file content locked) ∈ placesAmong parts items
  | [], parts, q => by simp [filesAmong, placesAmong]
  | (name, e) :: others, parts, q => by
    rw [filesAmong, placesAmong, List.mem_append, mem_filesBelow e (parts ++ [name]) q,
      mem_filesAmong others parts q]
    constructor
    · rintro (⟨content, locked, h⟩ | ⟨content, locked, h⟩)
      · exact ⟨content, locked, List.mem_append_left _ h⟩
      · exact ⟨content, locked, List.mem_append_right _ h⟩
    · rintro ⟨content, locked, h⟩
      rcases List.mem_append.mp h with h | h
      · exact Or.inl ⟨content, locked, h⟩
      · exact Or.inr ⟨content, locked, h⟩

end

/-- A path has a suffix of a known language if it has a language. -/
theorem Language.isSome_forPath?_iff {path : Path} :
    (forPath? path).isSome = true ↔ suffixOf path ∈ allExtensions := by
  simp [forPath?, allExtensions, supports]

/-- The source files of a project are its files of a known language without a component that keeps them out. -/
theorem mem_sourceFiles {parts : List String} :
    parts ∈ sourceFiles disk ↔ (∃ content locked, (parts, .file content locked) ∈ disk.places) ∧
      (Language.forPath? (.relative parts)).isSome = true ∧ parts.any isExcludedPart = false := by
  rw [sourceFiles, List.mem_filter, mem_filesAmong, Bool.and_eq_true, Bool.not_eq_true', List.contains_iff_mem,
    Language.isSome_forPath?_iff]
  rfl

section Files

variable {accepted : String → Bool}

mutual

theorem nodup_filesBelow (up : accepted ".." = false) :
    ∀ (e : Entry) (parts : List String), e.named accepted = true → (filesBelow parts e).Nodup
  | .file _ _, parts, _ => List.nodup_singleton parts
  | .folder items _, parts, hn => nodup_filesAmong up items parts hn

theorem nodup_filesAmong (up : accepted ".." = false) :
    ∀ (items : List (String × Entry)) (parts : List String), namedItems accepted items = true →
      (filesAmong parts items).Nodup
  | [], parts, _ => List.nodup_nil
  | (name, e) :: others, parts, hn => by
    obtain ⟨-, hdistinct, he, hothers⟩ := namedItems_cons.mp hn
    refine (nodup_filesBelow up e (parts ++ [name]) he).append (nodup_filesAmong up others parts hothers) ?_
    intro q hbelow hamong
    obtain ⟨content, locked, hplace⟩ := (mem_filesBelow e (parts ++ [name]) q).mp hbelow
    obtain ⟨content', locked', hplace'⟩ := (mem_filesAmong others parts q).mp hamong
    obtain ⟨rest, rfl, -⟩ := walk_of_mem_below up e _ q _ he hplace
    obtain ⟨name', e', rest', heq, hmem, -⟩ := walk_of_mem_among up others parts _ _ hothers hplace'
    rw [List.append_assoc, List.singleton_append, List.append_cancel_left_eq] at heq
    obtain ⟨rfl, -⟩ := List.cons.inj heq
    exact hdistinct e' hmem

end

/-- No source file is met twice. -/
theorem nodup_sourceFiles (up : accepted ".." = false) (h : disk.named accepted = true) : (sourceFiles disk).Nodup := by
  refine List.Nodup.filter _ ?_
  cases disk with
  | file content locked => exact List.nodup_nil
  | folder items locked => exact nodup_filesAmong up items [] h

theorem readFile_of_mem_places (up : accepted ".." = false) (h : disk.named accepted = true)
    {parts : List String} {content : ByteArray} {locked : Bool}
    (hm : (parts, .file content locked) ∈ disk.places) : disk.readFile false parts = some content := by
  rw [Entry.readFile, walk_of_mem_places up h hm]
  rfl

theorem fileDigest?_of_readFile {disk : Entry} {parts : List String} {content : ByteArray}
    (hread : disk.readFile false parts = some content) :
    fileDigest? disk parts = some (Digest.sha256 content) := by
  rw [fileDigest?, hread]
  rfl

theorem fileDigest?_of_mem_sourceFiles (up : accepted ".." = false) (h : disk.named accepted = true)
    {parts : List String} (hm : parts ∈ sourceFiles disk) :
    ∃ content, disk.readFile false parts = some content ∧
      fileDigest? disk parts = some (Digest.sha256 content) := by
  obtain ⟨⟨content, locked, hplace⟩, -⟩ := mem_sourceFiles.mp hm
  have hread := readFile_of_mem_places up h hplace
  exact ⟨content, hread, fileDigest?_of_readFile hread⟩

end Files

end CodeAtlas
