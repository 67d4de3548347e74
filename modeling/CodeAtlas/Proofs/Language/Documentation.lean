import Mathlib
import CodeAtlas.Proofs.Language.Definitions

/-!
# Documentation of wrapped declarations

The documentation of a declaration is read from the comments right before its node. In some languages a declaration can
stand inside of another node: behind an export in JavaScript, in a type declaration in Go, and behind template parameters
in C++. The comments are then before the outer node, while those before the inner node are looked for. What comes before
the inner node is a keyword or a list of parameters, so that nothing is read.

What is found at a declaration depends on the nodes before it only by the documentation. So the entity of a wrapped
declaration is that of the bare one, without its documentation.

## Main definitions

* `Wrapping`: which declarations of a language stand inside of which nodes, and how their documentation is read
* `Wrapping.Wraps`: a declaration in a wrapper, and what comes before each of them
* `located`: the entities of a file, with the addresses of their nodes

## Main results

* `foundAfter_locatedBelow`: an entity is found with the nodes before its own
* `Wrapping.entities_eq_map`: what is found at a declaration, by the nodes before it
* `wrapped_documentation_iff`: when a wrapped declaration has the documentation of the bare one
-/

namespace CodeAtlas

/-- An entity with other documentation. -/
def Entity.document (docstring : Option String) (e : Entity) : Entity :=
  { e with docstring := docstring }

namespace Language

/-! ## Where entities are found -/

/-- The entities in a syntax tree, each with its site. -/
def located (l : Language) (path : Path) (t : Tree) : List (Site × Entity) :=
  locatedBelow (l.rule ⟨path.toString, l.dialect (suffixOf path)⟩) .top none [] t

theorem map_snd_located (l : Language) (path : Path) (t : Tree) :
    (l.located path t).map Prod.snd = l.entities path t :=
  map_snd_locatedBelow _ _ _ _ _

/-- An entity is found at an address in a tree, with the nodes before that node. -/
def FoundAfter (rule : Rule) (root : Tree) (address : Address) (e : Entity) : Prop :=
  ∃ host parent i t scope, address = host ++ [i] ∧ root.descend host = some parent ∧ parent.children[i]? = some t ∧
    e ∈ (rule scope (parent.children.take i).reverse t).entities

/-- The node at the address and the nodes before it are known. -/
theorem FoundAfter.exists_scope {rule : Rule} {root parent t : Tree} {host : Address} {i : ℕ} {e : Entity}
    (h : FoundAfter rule root (host ++ [i]) e) (hparent : root.descend host = some parent)
    (ht : parent.children[i]? = some t) : ∃ scope, e ∈ (rule scope (parent.children.take i).reverse t).entities := by
  obtain ⟨host', parent', i', t', scope, haddress, hparent', ht', he⟩ := h
  obtain ⟨rfl, hi⟩ := List.append_inj' haddress rfl
  obtain rfl := List.singleton_inj.mp hi
  obtain rfl : parent = parent' := Option.some.inj (hparent.symm.trans hparent')
  obtain rfl : t = t' := Option.some.inj (ht.symm.trans ht')
  exact ⟨scope, he⟩

/-- The next child of a node, and what comes before and after it. -/
theorem of_drop_children_eq_cons {parent t : Tree} {index : ℕ} {ts : List Tree}
    (h : parent.children.drop index = t :: ts) :
    parent.children[index]? = some t ∧ parent.children.drop (index + 1) = ts ∧
      (parent.children.take (index + 1)).reverse = t :: (parent.children.take index).reverse := by
  have ht : parent.children[index]? = some t := by rw [← List.head?_drop, h, List.head?_cons]
  refine ⟨ht, by rw [← List.tail_drop, h, List.tail_cons], ?_⟩
  rw [List.take_add_one, ht, List.reverse_append]
  rfl

section

variable (rule : Rule) {root : Tree}

theorem mem_locatedIn_of_mem_entities {scope : Scope} {before : List Tree} {t : Tree} {e : Entity}
    (he : e ∈ (rule scope before t).entities) (enclosing : Option Address) (address : Address) :
    (⟨enclosing, address⟩, e) ∈ locatedIn rule scope enclosing address before t := by
  cases t with
  | node kind text firstRow lastRow children =>
    rw [locatedIn]
    exact List.mem_append_left _ (List.mem_map.mpr ⟨e, he, rfl⟩)

theorem locatedBelow_subset_locatedIn {scope inner : Scope} {before : List Tree} {t : Tree}
    (hinside : (rule scope before t).inside = .children inner) (enclosing : Option Address) (address : Address) :
    locatedBelow rule inner enclosing address t ⊆ locatedIn rule scope enclosing address before t := by
  cases t with
  | node kind text firstRow lastRow children =>
    simp only [locatedIn, locatedBelow, hinside]
    exact List.subset_append_right _ _

mutual

theorem foundAfter_locatedIn (scope : Scope) (enclosing : Option Address) {host : Address} {parent : Tree} {i : ℕ}
    (hparent : root.descend host = some parent) (t : Tree) (ht : parent.children[i]? = some t) :
    ∀ x ∈ locatedIn rule scope enclosing (host ++ [i]) (parent.children.take i).reverse t,
      FoundAfter rule root x.1.address x.2 := by
  intro x hx
  have hnode : root.descend (host ++ [i]) = some t := (Tree.descend_child hparent i).trans ht
  cases t with
  | node kind text firstRow lastRow children =>
    rw [locatedIn] at hx
    rcases List.mem_append.mp hx with hx | hx
    · obtain ⟨e, he, rfl⟩ := List.mem_map.mp hx
      exact ⟨host, parent, i, _, scope, rfl, hparent, ht, he⟩
    · split at hx
      · cases hx
      · next inner _ => exact foundAfter_locatedAmong inner enclosing hnode 0 children rfl x hx
      · next bodyKind inner _ => exact foundAfter_locatedInBody inner (some _) hnode 0 bodyKind children rfl x hx

theorem foundAfter_locatedAmong (scope : Scope) (enclosing : Option Address) {host : Address} {parent : Tree}
    (hparent : root.descend host = some parent) (index : ℕ) (ts : List Tree) (hts : parent.children.drop index = ts) :
    ∀ x ∈ locatedAmong rule scope enclosing host index (parent.children.take index).reverse ts,
      FoundAfter rule root x.1.address x.2 := by
  intro x hx
  cases ts with
  | nil => simp [locatedAmong] at hx
  | cons t ts =>
    obtain ⟨ht, hrest, hbefore⟩ := of_drop_children_eq_cons hts
    rw [locatedAmong, ← hbefore] at hx
    rcases List.mem_append.mp hx with hx | hx
    · exact foundAfter_locatedIn scope enclosing hparent t ht x hx
    · exact foundAfter_locatedAmong scope enclosing hparent (index + 1) ts hrest x hx

theorem foundAfter_locatedInBody (scope : Scope) (enclosing : Option Address) {host : Address} {parent : Tree}
    (hparent : root.descend host = some parent) (index : ℕ) (kind : String) (ts : List Tree)
    (hts : parent.children.drop index = ts) :
    ∀ x ∈ locatedInBody rule scope enclosing host index kind ts, FoundAfter rule root x.1.address x.2 := by
  intro x hx
  cases ts with
  | nil => simp [locatedInBody] at hx
  | cons t ts =>
    obtain ⟨ht, hrest, -⟩ := of_drop_children_eq_cons hts
    rw [locatedInBody] at hx
    split at hx
    · exact foundAfter_locatedBelow scope enclosing t ((Tree.descend_child hparent index).trans ht) x hx
    · exact foundAfter_locatedInBody scope enclosing hparent (index + 1) kind ts hrest x hx

/-- **An entity is found with the nodes before its own.** -/
theorem foundAfter_locatedBelow (scope : Scope) (enclosing : Option Address) {host : Address} (t : Tree)
    (ht : root.descend host = some t) :
    ∀ x ∈ locatedBelow rule scope enclosing host t, FoundAfter rule root x.1.address x.2 := by
  intro x hx
  cases t with
  | node kind text firstRow lastRow children =>
    rw [locatedBelow] at hx
    exact foundAfter_locatedAmong scope enclosing ht 0 children rfl x hx

end

end

/-! ## Wrapped declarations -/

/-- Declarations that can stand inside of another node. -/
structure Wrapping where
  /-- The name of the language. -/
  language : String
  /-- What is found at a node. -/
  rule : File → Rule
  /-- The kind of the node around a declaration. -/
  wrapper : String
  /-- The kinds of the declarations. -/
  declarations : List String
  /-- The scope of the declarations inside of a wrapper at the top of a file. -/
  scope : Scope
  /-- The documentation, given the nodes before a declaration. -/
  style : List Tree → Option String

namespace Wrapping

/-- Exports of JavaScript and TypeScript. -/
def script : Wrapping where
  language := "javascript"
  rule := Script.rule
  wrapper := "export_statement"
  declarations := ["function_declaration", "generator_function_declaration", "class_declaration",
    "interface_declaration", "type_alias_declaration"]
  scope := .top
  style := Comment.adjacentBlock

/-- Type declarations of Go. -/
def go : Wrapping where
  language := "go"
  rule := Go.rule
  wrapper := "type_declaration"
  declarations := ["type_spec"]
  scope := ⟨.members, none⟩
  style := Comment.goRun

/-- Templates of C++. -/
def cFamily : Wrapping where
  language := "c_cpp"
  rule := CFamily.rule
  wrapper := "template_declaration"
  declarations := ["function_definition", "class_specifier", "struct_specifier"]
  scope := .top
  style := Comment.cRun

/-- All of them. -/
def all : List Wrapping := [script, go, cFamily]

/-- A declaration stands in a wrapper, the child with number `j` of the child with number `i` of a host. The nodes before
the wrapper are `outer`, and those before the declaration are `inner`, the nearest one first. -/
structure Wraps (w : Wrapping) (root : Tree) (host : Address) (i j : ℕ) (outer inner : List Tree) (t : Tree) : Prop where
  kind : t.kind ∈ w.declarations
  exists_wrapper : ∃ parent wrapper, root.descend host = some parent ∧ parent.children[i]? = some wrapper ∧
    wrapper.kind = w.wrapper ∧ wrapper.children[j]? = some t ∧
    outer = (parent.children.take i).reverse ∧ inner = (wrapper.children.take j).reverse

end Wrapping

/-! ## What is found at a declaration -/

/-- What is found at a declaration depends on the nodes before it only by the documentation. -/
def Wrapping.Documents (w : Wrapping) : Prop :=
  ∀ file scope before t, t.kind ∈ w.declarations →
    (w.rule file scope before t).entities = (w.rule file scope [] t).entities.map (Entity.document (w.style before))

namespace Script

theorem documented_eq_map (file : File) (scope : Scope) (before : List Tree) (t : Tree) (name? : Option String)
    (kind : EntityKind) (signature : String → String) (calls bases : List String) :
    documented file scope before t name? kind signature calls bases =
      (documented file scope [] t name? kind signature calls bases).map
        (Entity.document (Comment.adjacentBlock before)) := by
  cases name? <;> rfl

theorem entities_class {t : Tree} (ht : t.kind = "class_declaration") (file : File) (scope : Scope)
    (before : List Tree) :
    (fileRule file scope before t).entities = documented file scope before t (name? t) .classType (classSignature t) []
      ((extended? t).toList ++ implemented t) := by
  simp only [fileRule, ht]
  cases name? t <;> rfl

theorem documents : Wrapping.script.Documents := by
  intro file scope before t ht
  simp only [Wrapping.script, List.mem_cons, List.not_mem_nil, or_false] at ht
  simp only [Wrapping.script]
  cases hl : scope.level with
  | file =>
    simp only [rule, hl]
    rcases ht with ht | ht | ht | ht | ht
    · simp [fileRule, ht, Found.only, ← documented_eq_map]
    · simp [fileRule, ht, Found.only, ← documented_eq_map]
    · rw [entities_class ht, entities_class ht, documented_eq_map]
    · simp [fileRule, ht, Found.only, ← documented_eq_map]
    · simp [fileRule, ht, Found.only, ← documented_eq_map]
  -- a class has no such members
  | members => rcases ht with ht | ht | ht | ht | ht <;> simp [rule, hl, memberRule, ht, Found.nothing]
  | promises => rcases ht with ht | ht | ht | ht | ht <;> simp [rule, hl, memberRule, ht, Found.nothing]

end Script

namespace Go

theorem typeSpec_eq_map (file : File) (before : List Tree) (t : Tree) :
    typeSpec file before t = (typeSpec file [] t).map (Entity.document (Comment.goRun before)) := by
  unfold typeSpec
  split <;> rfl

theorem documents : Wrapping.go.Documents := by
  intro file scope before t ht
  have hkind : t.kind = "type_spec" := List.mem_singleton.mp ht
  simp only [Wrapping.go]
  cases hl : scope.level with
  | file => simp [rule, hl, hkind, Found.nothing]
  | members => simp [rule, hl, hkind, Found.only, ← typeSpec_eq_map]
  | promises => simp [rule, hl, hkind, Found.only, ← typeSpec_eq_map]

end Go

namespace CFamily

theorem declared?_eq_map (file : File) (parent : Option String) (before : List Tree) (t : Tree) (name? : Option String)
    (kind : EntityKind) (signature : String → String) (calls bases : List String) :
    declared? file parent before t name? kind signature calls bases =
      (declared? file parent [] t name? kind signature calls bases).map (Entity.document (Comment.cRun before)) := by
  cases name? <;> rfl

theorem function_eq_map (file : File) (scope : Scope) (before : List Tree) (t : Tree) :
    function file scope before t = (function file scope [] t).map (Entity.document (Comment.cRun before)) := by
  rw [function, declared?_eq_map, Option.toList_map]
  rfl

theorem entities_class {t : Tree} (ht : t.kind = "class_specifier") (file : File) (scope : Scope) (before : List Tree) :
    (fileRule file scope before t).entities = (declared? file scope.parent before t (t.firstText? ["type_identifier"])
      .classType (classSignature t) [] (bases t)).toList := by
  simp only [fileRule, ht]
  cases t.firstText? ["type_identifier"] <;> rfl

theorem documents : Wrapping.cFamily.Documents := by
  intro file scope before t ht
  simp only [Wrapping.cFamily, List.mem_cons, List.not_mem_nil, or_false] at ht
  simp only [Wrapping.cFamily]
  cases hl : scope.level with
  | file =>
    simp only [rule, hl]
    rcases ht with ht | ht | ht
    · simp [fileRule, ht, Found.only, ← function_eq_map]
    · rw [entities_class ht, entities_class ht, declared?_eq_map, Option.toList_map]
    · simp [fileRule, ht, Found.only, ← Option.toList_map, ← declared?_eq_map]
  -- of the members of a class only functions are found
  | members => rcases ht with ht | ht | ht <;> simp [rule, hl, ht, Found.nothing, Found.only, ← function_eq_map]
  | promises => rcases ht with ht | ht | ht <;> simp [rule, hl, ht, Found.nothing, Found.only, ← function_eq_map]

end CFamily

namespace Wrapping

variable {w : Wrapping} (hw : w ∈ all)

include hw

theorem rule_eq {l : Language} (hl : l ∈ languages) (hname : l.name = w.language) : l.rule = w.rule := by
  simp only [all, List.mem_cons, List.not_mem_nil, or_false] at hw
  rcases hw with rfl | rfl | rfl
  · exact rule_eq_of_name hl (List.getElem_mem (n := 1) (by decide)) hname
  · exact rule_eq_of_name hl (List.getElem_mem (n := 2) (by decide)) hname
  · exact rule_eq_of_name hl (List.getElem_mem (n := 5) (by decide)) hname

/-- **What is found at a declaration**, by the nodes before it. -/
theorem entities_eq_map (file : File) (scope : Scope) (before : List Tree) {t : Tree} (ht : t.kind ∈ w.declarations) :
    (w.rule file scope before t).entities =
      (w.rule file scope [] t).entities.map (Entity.document (w.style before)) := by
  simp only [all, List.mem_cons, List.not_mem_nil, or_false] at hw
  rcases hw with rfl | rfl | rfl
  · exact Script.documents file scope before t ht
  · exact Go.documents file scope before t ht
  · exact CFamily.documents file scope before t ht

/-- At the top of a file the children of a wrapper are walked. -/
theorem rule_wrapper (file : File) (before : List Tree) {t : Tree} (ht : t.kind = w.wrapper) :
    w.rule file .top before t = ⟨[], .children w.scope⟩ := by
  simp only [all, List.mem_cons, List.not_mem_nil, or_false] at hw
  rcases hw with rfl | rfl | rfl
  · simp [script] at ht
    simp [script, Script.rule, Scope.top, Script.fileRule, ht, Found.through]
  · simp [go] at ht
    simp [go, Go.rule, Scope.top, ht]
  · simp [cFamily] at ht
    simp [cFamily, CFamily.rule, Scope.top, CFamily.fileRule, ht, CFamily.wrappers, Found.through]

/-- Nothing is read if there is no comment right before a declaration. -/
theorem style_eq_none {before : List Tree} (hbefore : ∀ t ∈ before.head?, t.kind ≠ "comment") :
    w.style before = none := by
  have hrun : ∀ read, Comment.run ["comment"] read before = none := by
    intro read
    cases before with
    | nil => rfl
    | cons t before =>
      have ht : t.kind ≠ "comment" := hbefore t rfl
      simp [Comment.run, Comment.takeMapped, ht]
  simp only [all, List.mem_cons, List.not_mem_nil, or_false] at hw
  rcases hw with rfl | rfl | rfl
  · cases before with
    | nil => rfl
    | cons t before =>
      have ht : t.kind ≠ "comment" := hbefore t rfl
      simp [script, Comment.adjacentBlock, ht]
  · exact hrun fun comment => some (Comment.goText comment)
  · exact congrArg (Option.map Text.strip) (hrun fun comment => some (Comment.cText comment))

end Wrapping

/-- **When a wrapped declaration has the documentation of the bare one.** A declaration stands in a wrapper: behind an
export, in a type declaration or behind template parameters. An entity of the file that is found there has the
documentation that is read from the nodes before the declaration inside of the wrapper. Wherever else the declaration
stood, the same entity would be found with the documentation that is read from the nodes before it there. If no comment
stands right before the declaration inside of the wrapper, then the entity has no documentation, and it has the
documentation that stands before the wrapper exactly if there is none. What is found at a declaration in a wrapper at the
top of the file is among the entities of the file. -/
theorem wrapped_documentation_iff {l : Language} (hl : l ∈ languages) {w : Wrapping} (hw : w ∈ Wrapping.all)
    (hname : l.name = w.language) (path : Path) {root t : Tree} {host : Address} {i j : ℕ} {outer inner : List Tree}
    (hwraps : w.Wraps root host i j outer inner t) :
    let found := fun scope before => (l.rule ⟨path.toString, l.dialect (suffixOf path)⟩ scope before t).entities
    (∀ enclosing e, (⟨enclosing, host ++ [i, j]⟩, e) ∈ l.located path root →
      e ∈ l.entities path root ∧ e.docstring = w.style inner ∧
      (∃ scope, ∀ before, e.document (w.style before) ∈ found scope before) ∧
      ((∀ c ∈ inner.head?, c.kind ≠ "comment") →
        e.docstring = none ∧ (e.docstring = w.style outer ↔ w.style outer = none))) ∧
    (host = [] → ∀ e ∈ found w.scope inner, (⟨none, [i, j]⟩, e) ∈ l.located path root) := by
  intro found
  have hrule : l.rule = w.rule := Wrapping.rule_eq hw hl hname
  obtain ⟨hkind, parent, wrapper, hparent, hwrapper, hwrapped, ht, rfl, rfl⟩ := hwraps
  constructor
  · intro enclosing e he
    have hfound : ∃ scope, e ∈ found scope (wrapper.children.take j).reverse := by
      have hafter := foundAfter_locatedBelow _ .top none root rfl _ he
      rw [List.append_cons] at hafter
      exact hafter.exists_scope ((Tree.descend_child hparent i).trans hwrapper) ht
    obtain ⟨scope, hfound⟩ := hfound
    simp only [found, hrule] at hfound
    rw [Wrapping.entities_eq_map hw _ _ _ hkind] at hfound
    obtain ⟨bare, hbare, rfl⟩ := List.mem_map.mp hfound
    refine ⟨l.map_snd_located path root ▸ List.mem_map_of_mem he, rfl, ⟨scope, fun before => ?_⟩, fun hcomment => ?_⟩
    · simp only [found, hrule]
      rw [Wrapping.entities_eq_map hw _ _ _ hkind]
      exact List.mem_map.mpr ⟨bare, hbare, rfl⟩
    · have hnone : w.style (wrapper.children.take j).reverse = none := Wrapping.style_eq_none hw hcomment
      rw [Entity.document]
      simp only [hnone, true_and]
      exact eq_comm
  · rintro rfl e he
    obtain rfl := Option.some.inj hparent
    have hinside := congrArg Found.inside (Wrapping.rule_wrapper hw ⟨path.toString, l.dialect (suffixOf path)⟩
      (root.children.take i).reverse hwrapped)
    rw [← hrule] at hinside
    -- down to the wrapper, into it, and to the declaration
    refine locatedIn_subset_locatedBelow _ .top none [] hwrapper ?_
    refine locatedBelow_subset_locatedIn _ hinside none [i] ?_
    refine locatedIn_subset_locatedBelow _ w.scope none [i] ht ?_
    exact mem_locatedIn_of_mem_entities _ he none [i, j]

end Language

namespace Sample

/-- A file with a comment and a wrapped declaration, which comes behind a keyword. -/
def wrappedFile (w : Language.Wrapping) (comment keyword : String) (t : Tree) : Tree :=
  .node "" "" 0 2 [leaf "comment" comment, .node w.wrapper "" 1 1 [leaf keyword keyword, t]]

theorem wraps_wrappedFile {w : Language.Wrapping} {t : Tree} (ht : t.kind ∈ w.declarations) (comment keyword : String) :
    w.Wraps (wrappedFile w comment keyword t) [] 1 1 [leaf "comment" comment] [leaf keyword keyword] t :=
  ⟨ht, _, _, rfl, rfl, rfl, rfl, rfl, rfl⟩

/-- A function of JavaScript. -/
def addFunction : Tree :=
  .node "function_declaration" "function add(a) \x7b\x7d" 1 1 [leaf "identifier" "add", leaf "formal_parameters" "(a)"]

/-- A type of Go. -/
def userSpec : Tree :=
  .node "type_spec" "User struct \x7b\x7d" 1 1 [leaf "type_identifier" "User", leaf "struct_type" "struct \x7b\x7d"]

/-- A function of C++. -/
def biggestFunction : Tree :=
  .node "function_definition" "T biggest(T a) \x7b\x7d" 1 1
    [.node "function_declarator" "biggest(T a)" 1 1 [leaf "identifier" "biggest", leaf "parameter_list" "(T a)"]]

end Sample

/-- An exported function, a type and a template, each behind a comment with its documentation, are found without it. -/
theorem wrapped_declarations_undocumented :
    (∃ l ∈ languages, l.name = "javascript" ∧
      ∃ e, (⟨none, [1, 1]⟩, e) ∈ l.located (.relative ["a.js"])
          (Sample.wrappedFile .script "/** Adds one. */" "export" Sample.addFunction) ∧
        e.name = "add" ∧ e.docstring = none ∧
        Comment.adjacentBlock [Sample.leaf "comment" "/** Adds one. */"] = some "Adds one.") ∧
    (∃ l ∈ languages, l.name = "go" ∧
      ∃ e, (⟨none, [1, 1]⟩, e) ∈ l.located (.relative ["a.go"])
          (Sample.wrappedFile .go "// User is a user." "type" Sample.userSpec) ∧
        e.name = "User" ∧ e.docstring = none ∧
        Comment.goRun [Sample.leaf "comment" "// User is a user."] = some "User is a user.") ∧
    ∃ l ∈ languages, l.name = "c_cpp" ∧
      ∃ e, (⟨none, [1, 1]⟩, e) ∈ l.located (.relative ["a.cpp"])
          (Sample.wrappedFile .cFamily "// The largest." "template_parameter_list" Sample.biggestFunction) ∧
        e.name = "biggest" ∧ e.docstring = none ∧
        Comment.cRun [Sample.leaf "comment" "// The largest."] = some "The largest." := by
  refine ⟨⟨languages.get ⟨1, by decide⟩, List.get_mem _ _, rfl, ?_⟩,
    ⟨languages.get ⟨2, by decide⟩, List.get_mem _ _, rfl, ?_⟩,
    ⟨languages.get ⟨5, by decide⟩, List.get_mem _ _, rfl, ?_⟩⟩
  · obtain ⟨hlost, hfound⟩ := Language.wrapped_documentation_iff (l := languages.get ⟨1, by decide⟩) (List.get_mem _ _)
      (w := .script) (by simp [Language.Wrapping.all]) rfl (.relative ["a.js"])
      (Sample.wraps_wrappedFile (t := Sample.addFunction) (by decide) "/** Adds one. */" "export")
    have he := hfound rfl _ List.mem_cons_self
    exact ⟨_, he, rfl, ((hlost _ _ he).2.2.2 (by decide)).1, by decide +kernel⟩
  · obtain ⟨hlost, hfound⟩ := Language.wrapped_documentation_iff (l := languages.get ⟨2, by decide⟩) (List.get_mem _ _)
      (w := .go) (by simp [Language.Wrapping.all]) rfl (.relative ["a.go"])
      (Sample.wraps_wrappedFile (t := Sample.userSpec) (by decide) "// User is a user." "type")
    have he := hfound rfl _ List.mem_cons_self
    exact ⟨_, he, rfl, ((hlost _ _ he).2.2.2 (by decide)).1, by decide +kernel⟩
  · obtain ⟨hlost, hfound⟩ := Language.wrapped_documentation_iff (l := languages.get ⟨5, by decide⟩) (List.get_mem _ _)
      (w := .cFamily) (by simp [Language.Wrapping.all]) rfl (.relative ["a.cpp"])
      (Sample.wraps_wrappedFile (t := Sample.biggestFunction) (by decide) "// The largest." "template_parameter_list")
    have he := hfound rfl _ List.mem_cons_self
    exact ⟨_, he, rfl, ((hlost _ _ he).2.2.2 (by decide)).1, by decide +kernel⟩

end CodeAtlas
