import Mathlib
import CodeAtlas.Proofs.Text.Pieces
import CodeAtlas.Graph.Scan

/-!
# Names, paths and identifiers

The items of a directory have names without slashes, so the text of a relative path determines its components. The
identifier of a directory or a file is the text of its path, and the identifier of a declaration continues the path of
its file with a colon. So in a project without colons in its names the part of an identifier before the first colon
tells which file it belongs to.

## Main definitions

* `isFileName`, `isPlainName`: names that an item of a directory can have, and those among them without a colon
* `folderId`: the identifier of the directory at some components
* `fileOf`: the part of an identifier before its first colon

## Main results

* `relativeText_inj`: the text of a relative path determines its components
* `fileOf_relativeText`, `fileOf_entityNodeId`: to which file an identifier belongs
-/

namespace CodeAtlas

/-- Whether an item of a directory can have a name. -/
def isFileName (name : String) : Bool :=
  name != "" && name != "." && name != ".." && !Text.hasChar '/' name

/-- Whether an item of a directory can have a name, and the name has no colon. -/
def isPlainName (name : String) : Bool :=
  isFileName name && !Text.hasChar ':' name

theorem isFileName_iff {name : String} :
    isFileName name = true ↔ name ≠ "" ∧ name ≠ "." ∧ name ≠ ".." ∧ '/' ∉ name.toList := by
  simp [isFileName, Text.hasChar, and_assoc]

theorem isPlainName_iff {name : String} :
    isPlainName name = true ↔ isFileName name = true ∧ ':' ∉ name.toList := by
  simp [isPlainName, Text.hasChar]

/-! ## Texts of relative paths -/

@[simp] theorem relativeText_singleton (name : String) : relativeText [name] = name :=
  Text.joinWith_singleton _ _

theorem relativeText_append_singleton {parts : List String} (hne : parts ≠ []) (name : String) :
    relativeText (parts ++ [name]) = relativeText parts ++ "/" ++ name :=
  Text.joinWith_append_singleton _ hne _

/-- The components of a relative path come back from its text. -/
theorem components_relativeText {parts : List String} (h : ∀ n ∈ parts, isFileName n = true) :
    Path.components (relativeText parts) = parts := by
  by_cases hne : parts = []
  · subst hne
    rfl
  · have hslash : ∀ n ∈ parts, '/' ∉ n.toList := fun n hn => (isFileName_iff.mp (h n hn)).2.2.2
    rw [Path.components, relativeText, Text.cutAt_joinWith rfl hne hslash, List.filter_eq_self]
    intro n hn
    obtain ⟨hempty, hdot, -, -⟩ := isFileName_iff.mp (h n hn)
    simp [hempty, hdot]

/-- **The text of a relative path determines its components.** -/
theorem relativeText_inj {parts parts' : List String} (h : ∀ n ∈ parts, isFileName n = true)
    (h' : ∀ n ∈ parts', isFileName n = true) (he : relativeText parts = relativeText parts') :
    parts = parts' := by
  rw [← components_relativeText h, he, components_relativeText h']

theorem relativeText_ne_dot {parts : List String} (h : ∀ n ∈ parts, isFileName n = true) :
    relativeText parts ≠ "." := by
  intro he
  have hparts : parts = [] := by
    rw [← components_relativeText h, he]
    rfl
  subst hparts
  exact absurd he (by decide)

theorem colon_not_mem_relativeText {parts : List String} (h : ∀ n ∈ parts, isPlainName n = true) :
    ':' ∉ (relativeText parts).toList := by
  intro hc
  rw [relativeText, Text.toList_joinWith] at hc
  rcases Text.mem_or_exists_of_mem_intercalate hc with hc | ⟨p, hp, hc⟩
  · exact absurd hc (by decide)
  · obtain ⟨n, hn, rfl⟩ := List.mem_map.mp hp
    exact (isPlainName_iff.mp (h n hn)).2 hc

/-- If the text of a relative path has no colon, neither have its components. -/
theorem plain_of_colon_not_mem {parts : List String} (h : ∀ n ∈ parts, isFileName n = true)
    (hcolon : ':' ∉ (relativeText parts).toList) : ∀ n ∈ parts, isPlainName n = true := by
  intro n hn
  refine isPlainName_iff.mpr ⟨h n hn, fun hc => hcolon ?_⟩
  rw [relativeText, Text.toList_joinWith]
  exact Text.mem_intercalate_of_mem _ (List.mem_map_of_mem hn) hc

theorem isFileName_of_plain {parts : List String} (h : ∀ n ∈ parts, isPlainName n = true) :
    ∀ n ∈ parts, isFileName n = true :=
  fun n hn => (isPlainName_iff.mp (h n hn)).1

/-! ## Identifiers of directories -/

/-- The identifier of the directory at some components. -/
def folderId (parts : List String) : NodeId :=
  some (Path.relative parts).toString

@[simp] theorem folderId_nil : folderId [] = Graph.rootKey := rfl

theorem folderId_of_ne_nil {parts : List String} (hne : parts ≠ []) :
    folderId parts = some (relativeText parts) := by
  have h : parts.isEmpty = false := by simpa [List.isEmpty_iff] using hne
  simp [folderId, Path.relative, Path.toString, h, relativeText]

theorem folderId_dropLast (parts : List String) :
    folderId parts.dropLast = some (Path.relative parts).parent.toString := rfl

/-! ## Identifiers of declarations -/

/-- The part of an identifier before its first colon. -/
def fileOf (id : String) : String :=
  String.ofList (id.toList.takeWhile (· != ':'))

theorem fileOf_of_not_mem {id : String} (h : ':' ∉ id.toList) : fileOf id = id := by
  apply String.ext
  rw [fileOf, String.toList_ofList, List.takeWhile_eq_self_iff]
  intro c hc
  simpa using fun he : c = ':' => h (he ▸ hc)

theorem fileOf_append {path : String} (h : ':' ∉ path.toList) (rest : String) :
    fileOf (path ++ ":" ++ rest) = path := by
  apply String.ext
  have hpath : ∀ c ∈ path.toList, (c != ':') = true := fun c hc => by
    simpa using fun he : c = ':' => h (he ▸ hc)
  rw [fileOf, String.toList_ofList, String.toList_append, String.toList_append, List.append_assoc,
    List.takeWhile_append_of_pos hpath]
  simp

theorem fileOf_relativeText {parts : List String} (h : ∀ n ∈ parts, isPlainName n = true) :
    fileOf (relativeText parts) = relativeText parts :=
  fileOf_of_not_mem (colon_not_mem_relativeText h)

theorem entityNodeId_eq (rel : String) (e : Entity) : ∃ rest, entityNodeId rel e = rel ++ ":" ++ rest := by
  unfold entityNodeId entityParentId
  cases e.parent with
  | none => exact ⟨e.name, rfl⟩
  | some parent => exact ⟨Text.afterLast ':' parent ++ "." ++ e.name, by simp [String.append_assoc]⟩

/-- The identifier of a declaration belongs to its file. -/
theorem fileOf_entityNodeId {rel : String} (h : ':' ∉ rel.toList) (e : Entity) :
    fileOf (entityNodeId rel e) = rel := by
  obtain ⟨rest, he⟩ := entityNodeId_eq rel e
  rw [he, fileOf_append h]

theorem entityNodeId_ne (rel : String) (e : Entity) : entityNodeId rel e ≠ rel := by
  obtain ⟨rest, he⟩ := entityNodeId_eq rel e
  rw [he]
  intro h
  have := congrArg (fun s : String => s.toList.length) h
  simp at this

end CodeAtlas
