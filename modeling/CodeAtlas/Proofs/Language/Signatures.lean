import Mathlib
import CodeAtlas.Proofs.Language.Callees

/-!
# Names and signatures of members

A method of C# has modifiers, a type, a name and parameters, and a property has modifiers, a type, a name and accessors.
The type may be an identifier, as the name is. Four scans look for the parts: one for the modifiers, one for the first
node that can be a type, one for the first identifier, and one for the last identifier before the parameters. The name of
a method comes from the last of them, the name of a property and the name in all signatures from the third.

So a method always gets its own name, but the scans agree only if the type is neither an identifier nor of an unknown
kind. Behind a type that is an identifier, the type is shown in place of the name.

## Main definitions

* `Solid`: texts without blanks at their ends
* `Header`: the parts of a member up to its name
* `IsMember`: methods and properties with a header

## Main results

* `Header.Heads.firstText?_eq`: what a scan for some kinds finds
* `CSharp.methodName?_eq`: the name of a method
* `CSharp.signatures_agree_iff`: when the name and the signature of a member agree
-/

namespace CodeAtlas

/-! ## Texts without blanks at their ends -/

namespace Text

/-- A text that starts and ends with a character that is not blank. -/
def Solid (s : String) : Prop :=
  (∃ c ∈ s.toList.head?, isBlank c = false) ∧ ∃ c ∈ s.toList.getLast?, isBlank c = false

-- the ends of the text decide it; the instance for existence would run through all characters
instance (s : String) : Decidable (Solid s) :=
  @instDecidableAnd _ _ (Option.decidableExistsMem _) (Option.decidableExistsMem _)

theorem Solid.ne_empty {s : String} (h : Solid s) : s ≠ "" := by
  rintro rfl
  obtain ⟨⟨c, hc, -⟩, -⟩ := h
  cases hc

/-- There is nothing to strip from a solid text. -/
theorem Solid.strip_eq {s : String} (h : Solid s) : strip s = s := by
  obtain ⟨⟨first, hfirst, hhead⟩, last, hlast, hend⟩ := h
  have hstart : s.toList.dropWhile isBlank = s.toList := by
    obtain ⟨tail, htail⟩ := List.head?_eq_some_iff.mp hfirst
    rw [htail, List.dropWhile_cons_of_neg (by simp [hhead])]
  have hstop : s.toList.reverse.dropWhile isBlank = s.toList.reverse := by
    rw [← List.head?_reverse] at hlast
    obtain ⟨tail, htail⟩ := List.head?_eq_some_iff.mp hlast
    rw [htail, List.dropWhile_cons_of_neg (by simp [hend])]
  rw [strip, stripChars, stripStartChars, hstart, stripEndChars, hstop, List.reverse_reverse, String.ofList_toList]

end Text

namespace Language

open Text

theorem wordsBefore_cons (word : String) (words : List String) :
    wordsBefore (word :: words) = word ++ " " ++ wordsBefore words := by
  simp [wordsBefore]

/-! ## Headers -/

/-- The parts of a member: what stands in front of the type, the type, the name, and what follows. -/
structure Header where
  /-- The modifiers, among attributes and comments. -/
  front : List Tree
  /-- The type. -/
  type : Tree
  /-- The name. -/
  name : Tree
  /-- Parameters or accessors, a body, and what else follows the name. -/
  rest : List Tree

namespace Header

/-- The texts of the modifiers. -/
def modifiers (h : Header) : List String :=
  (h.front.filter (·.kind = "modifier")).map Tree.text

/-- The text of the type if it has one of some kinds, and else that of the name. -/
def first (kinds : List String) (h : Header) : String :=
  if h.type.kind ∈ kinds then h.type.text else h.name.text

/-- The modifiers, a type, a name, and what follows the name. -/
def line (h : Header) (type name tail : String) : String :=
  wordsBefore h.modifiers ++ type ++ " " ++ name ++ tail

/-- The kinds of nodes that do not stand in front of the type. -/
def laterKinds : List String :=
  "parameter_list" :: "void_keyword" :: CSharp.typeKinds

/-- A node has a header. All modifiers stand in front of the type, and no part has blanks at its ends. -/
structure Heads (h : Header) (t : Tree) : Prop where
  children : t.children = h.front ++ h.type :: h.name :: h.rest
  front : ∀ c ∈ h.front, c.kind ∉ laterKinds ∧ (c.kind = "modifier" → Solid c.text)
  type : h.type.kind ≠ "modifier" ∧ h.type.kind ≠ "parameter_list" ∧ Solid h.type.text
  name : h.name.kind = "identifier" ∧ Solid h.name.text
  rest : ∀ c ∈ h.rest, c.kind ≠ "modifier"

namespace Heads

variable {h : Header} {t : Tree} (hh : h.Heads t)

include hh

theorem text?_type : h.type.text? = some h.type.text := by
  simp [Tree.text?, hh.type.2.2.ne_empty]

theorem text?_name : h.name.text? = some h.name.text := by
  simp [Tree.text?, hh.name.2.ne_empty]

theorem filter_front {kinds : List String} (hkinds : kinds ⊆ laterKinds) :
    h.front.filter (fun c => kinds.contains c.kind) = [] := by
  rw [List.filter_eq_nil_iff]
  intro c hc hkind
  exact (hh.front c hc).1 (hkinds (List.contains_iff_mem.mp hkind))

/-- **What a scan for some kinds finds**, if identifiers are among them: the type or the name. -/
theorem firstText?_eq {kinds : List String} (hkinds : kinds ⊆ laterKinds) (hid : "identifier" ∈ kinds) :
    t.firstText? kinds = some (h.first kinds) := by
  have hname : h.name.kind ∈ kinds := hh.name.1 ▸ hid
  rw [Tree.firstText?, Tree.childTexts, hh.children, List.filter_append, hh.filter_front hkinds, List.nil_append, first]
  by_cases htype : h.type.kind ∈ kinds
  · simp [htype, hh.text?_type]
  · simp [htype, hname, hh.text?_name]

theorem childText?_identifier : t.childText? "identifier" = some (h.first ["identifier"]) := by
  have hfront : h.front.find? (·.kind == "identifier") = none := by
    rw [List.find?_eq_none]
    intro c hc hkind
    exact (hh.front c hc).1 (beq_iff_eq.mp hkind ▸ by decide)
  rw [Tree.childText?, Tree.child?, hh.children, List.find?_append, hfront, Option.none_or, first]
  by_cases htype : h.type.kind = "identifier"
  · simp [htype, hh.text?_type]
  · simp [htype, hh.name.1, hh.text?_name]

/-- The modifiers are those in front of the type. -/
theorem modifiers_eq : CSharp.modifiers t = wordsBefore h.modifiers := by
  have hrest : (h.type :: h.name :: h.rest).filter (fun c => ["modifier"].contains c.kind) = [] := by
    rw [List.filter_eq_nil_iff, List.forall_mem_cons, List.forall_mem_cons]
    exact ⟨by simpa using hh.type.1, by simp [hh.name.1], by simpa using hh.rest⟩
  have hfront : (h.front.filter fun c => ["modifier"].contains c.kind).filterMap Tree.text? = h.modifiers := by
    have hkind : ∀ c : Tree, ["modifier"].contains c.kind = decide (c.kind = "modifier") := by simp
    simp only [hkind]
    rw [modifiers, ← List.filterMap_eq_map]
    refine List.filterMap_congr fun c hc => ?_
    obtain ⟨hmem, hmodifier⟩ := List.mem_filter.mp hc
    have hsolid := (hh.front c hmem).2 (of_decide_eq_true hmodifier)
    simp [Tree.text?, hsolid.ne_empty]
  rw [CSharp.modifiers, Tree.childTexts, hh.children, List.filter_append, hrest, List.append_nil, hfront]

/-- A line that starts with the modifiers and a solid text, and does not end with a blank, is solid. -/
theorem solid_line {type name tail : String} (htype : Solid type)
    (htail : ∃ c ∈ tail.toList.getLast?, isBlank c = false) : Solid (h.line type name tail) := by
  have hwords : ∀ word ∈ h.modifiers, Solid word := by
    intro word hword
    obtain ⟨c, hc, rfl⟩ := List.mem_map.mp hword
    obtain ⟨hmem, hmodifier⟩ := List.mem_filter.mp hc
    exact (hh.front c hmem).2 (of_decide_eq_true hmodifier)
  obtain ⟨last, hlast, hend⟩ := htail
  refine ⟨?_, last, ?_, hend⟩
  · cases hmodifiers : h.modifiers with
    | nil =>
      obtain ⟨⟨first, hfirst, hhead⟩, -⟩ := htype
      refine ⟨first, ?_, hhead⟩
      simp [line, hmodifiers, wordsBefore, List.head?_append, Option.mem_def.mp hfirst]
    | cons word words =>
      obtain ⟨⟨first, hfirst, hhead⟩, -⟩ := hwords word (by simp [hmodifiers])
      refine ⟨first, ?_, hhead⟩
      simp [line, hmodifiers, wordsBefore_cons, List.head?_append, Option.mem_def.mp hfirst]
  · rw [line, String.toList_append, List.getLast?_append, hlast]
    rfl

end Heads

theorem line_type_inj (h : Header) {a b name tail : String} : h.line a name tail = h.line b name tail ↔ a = b := by
  simp [line, ← String.toList_inj]

theorem line_name_inj (h : Header) {type a b tail : String} : h.line type a tail = h.line type b tail ↔ a = b := by
  simp [line, ← String.toList_inj]

/-- A line with the first of type and name in both places is the line of the header exactly if the type is looked for and
is no identifier, or reads like the name. -/
theorem line_first_eq_iff (h : Header) {kinds : List String} (hid : "identifier" ∈ kinds) (tail : String) :
    h.line (h.first kinds) (h.first ["identifier"]) tail = h.line h.type.text h.name.text tail ↔
      h.type.kind ∈ kinds ∧ h.type.kind ≠ "identifier" ∨ h.type.text = h.name.text := by
  by_cases htype : h.type.kind = "identifier"
  · have hkinds : h.type.kind ∈ kinds := htype ▸ hid
    rw [first, if_pos hkinds, first, if_pos (by simpa using htype), line_name_inj]
    simp [htype]
  · have hname : h.first ["identifier"] = h.name.text := if_neg (by simpa using htype)
    rw [hname, line_type_inj, first]
    by_cases hkinds : h.type.kind ∈ kinds
    · simp [hkinds, htype]
    · simp [hkinds, eq_comm]

end Header

/-! ## Members -/

/-- A member with a header: what follows the name in its signature, and the kinds of types that are looked for. -/
inductive IsMember (h : Header) (t : Tree) : (tail : String) → (kinds : List String) → Prop
  /-- A method. The first list of parameters comes before any other identifier. -/
  | method {between after : List Tree} {params : Tree} (hkind : t.kind = "method_declaration")
      (hrest : h.rest = between ++ params :: after)
      (hbetween : ∀ c ∈ between, c.kind ≠ "identifier" ∧ c.kind ≠ "parameter_list")
      (hparams : params.kind = "parameter_list" ∧ Solid params.text) :
      IsMember h t params.text ("void_keyword" :: CSharp.typeKinds)
  /-- A property. -/
  | property (hkind : t.kind = "property_declaration") : IsMember h t " \x7b get; set; \x7d" CSharp.typeKinds

namespace IsMember

variable {h : Header} {t : Tree} {tail : String} {kinds : List String}

theorem identifier_mem (hm : IsMember h t tail kinds) : "identifier" ∈ kinds := by
  cases hm <;> decide

theorem tail_solid (hm : IsMember h t tail kinds) : ∃ c ∈ tail.toList.getLast?, isBlank c = false := by
  cases hm with
  | method _ _ _ hparams => exact hparams.2.2
  | property => exact ⟨'\x7d', rfl, by decide⟩

/-- The line of a member is not changed when blanks are removed from its ends. -/
theorem strip_line (hm : IsMember h t tail kinds) (hh : h.Heads t) (name : String) :
    strip (h.line (h.first kinds) name tail) = h.line (h.first kinds) name tail := by
  have hfirst : Solid (h.first kinds) := by
    rw [Header.first]
    split
    · exact hh.type.2.2
    · exact hh.name.2
  exact (hh.solid_line hfirst hm.tail_solid).strip_eq

end IsMember

namespace CSharp

variable {h : Header} {t : Tree}

/-- What stands before the parameters of a method. -/
theorem kind_ne_of_mem_before (hh : h.Heads t) {between : List Tree}
    (hbetween : ∀ c ∈ between, c.kind ≠ "identifier" ∧ c.kind ≠ "parameter_list") :
    ∀ c ∈ h.front ++ [h.type] ++ h.name :: between, c.kind ≠ "parameter_list" := by
  intro c hc
  rcases List.mem_append.mp hc with hc | hc
  · rcases List.mem_append.mp hc with hc | hc
    · exact fun heq => (hh.front c hc).1 (heq ▸ by decide)
    · rw [List.mem_singleton.mp hc]
      exact hh.type.2.1
  · rcases List.mem_cons.mp hc with rfl | hc
    · rw [hh.name.1]
      decide
    · exact (hbetween c hc).2

section Method

variable (hh : h.Heads t) {between after : List Tree} {params : Tree} (hrest : h.rest = between ++ params :: after)
  (hbetween : ∀ c ∈ between, c.kind ≠ "identifier" ∧ c.kind ≠ "parameter_list")

include hh hrest

theorem children_eq : t.children = h.front ++ [h.type] ++ h.name :: between ++ params :: after := by
  simp [hh.children, hrest]

include hbetween

/-- **The name of a method** is the identifier before the parameters. -/
theorem methodName?_eq (hparams : params.kind = "parameter_list") : methodName? t = some h.name.text := by
  have hfront : t.children.takeWhile (·.kind != "parameter_list") = h.front ++ [h.type] ++ h.name :: between := by
    rw [children_eq hh hrest, List.takeWhile_append_of_pos (by simpa using kind_ne_of_mem_before hh hbetween),
      List.takeWhile_cons_of_neg (by simp [hparams]), List.append_nil]
  have hnone : between.filter (·.kind == "identifier") = [] := by
    rw [List.filter_eq_nil_iff]
    exact fun c hc => by simpa using (hbetween c hc).1
  -- whatever the type is, the name is the last identifier
  rw [methodName?, hfront, List.filter_append, List.filter_cons_of_pos (by simp [hh.name.1]), hnone,
    List.filterMap_append, List.filterMap_cons_some hh.text?_name]
  exact List.getLast?_concat

theorem methodSignature_eq (hparams : params.kind = "parameter_list" ∧ Solid params.text) :
    methodSignature t =
      strip (h.line (h.first ("void_keyword" :: typeKinds)) (h.first ["identifier"]) params.text) := by
  have htext : t.childTextD "parameter_list" "()" = params.text := by
    have hnone : (h.front ++ [h.type] ++ h.name :: between).find? (·.kind == "parameter_list") = none := by
      rw [List.find?_eq_none]
      exact fun c hc => by simpa using kind_ne_of_mem_before hh hbetween c hc
    rw [Tree.childTextD, Tree.childText?, Tree.child?, children_eq hh hrest, List.find?_append, hnone]
    simp [hparams.1, Tree.text?, hparams.2.ne_empty]
  rw [methodSignature, hh.modifiers_eq, hh.firstText?_eq (by decide) (by decide), htext, Tree.childTextD,
    hh.childText?_identifier]
  rfl

end Method

theorem propertySignature_eq (hh : h.Heads t) (name : String) :
    propertySignature t name = strip (h.line (h.first typeKinds) name " \x7b get; set; \x7d") := by
  rw [propertySignature, hh.modifiers_eq, hh.firstText?_eq (by decide) (by decide)]
  rfl

theorem exists_declared? (file : File) (parent : Option String) (before : List Tree) (t : Tree) (name : String)
    (kind : EntityKind) (signature : String → String) (calls bases : List String) :
    ∃ e, declared? file parent before t (some name) kind signature calls bases = some e ∧
      e.name = name ∧ e.signature = signature name :=
  ⟨_, rfl, rfl, rfl⟩

theorem entities_method (hkind : t.kind = "method_declaration") (file : File) (scope : Scope) (before : List Tree) :
    (memberRule file scope before t).entities =
      (declared? file scope.parent before t (methodName? t) .method (fun _ => methodSignature t) (calls t) []).toList := by
  simp [memberRule, hkind, Found.only]

theorem entities_property (hkind : t.kind = "property_declaration") (file : File) (scope : Scope) (before : List Tree) :
    (memberRule file scope before t).entities =
      (declared? file scope.parent before t (t.childText? "identifier") .method (propertySignature t) [] []).toList := by
  simp [memberRule, hkind, Found.only]

/-- What is found at a member, wherever members are looked for. -/
theorem exists_entity_of_isMember {tail : String} {kinds : List String} (hm : IsMember h t tail kinds) (hh : h.Heads t)
    (file : File) (scope : Scope) (before : List Tree) :
    ∃ e, (memberRule file scope before t).entities = [e] ∧
      e.name = (if t.kind = "method_declaration" then h.name.text else h.first ["identifier"]) ∧
      e.signature = h.line (h.first kinds) (h.first ["identifier"]) tail := by
  have hstrip := hm.strip_line hh (h.first ["identifier"])
  cases hm with
  | method hkind hrest hbetween hparams =>
    obtain ⟨e, he, hname, hsignature⟩ := exists_declared? file scope.parent before t h.name.text .method
      (fun _ => methodSignature t) (calls t) []
    refine ⟨e, ?_, by rw [if_pos hkind, hname], ?_⟩
    · rw [entities_method hkind, methodName?_eq hh hrest hbetween hparams.1, he]
      rfl
    · rw [hsignature, methodSignature_eq hh hrest hbetween hparams, hstrip]
  | property hkind =>
    have hother : t.kind ≠ "method_declaration" := by
      rw [hkind]
      decide
    obtain ⟨e, he, hname, hsignature⟩ := exists_declared? file scope.parent before t (h.first ["identifier"]) .method
      (propertySignature t) [] []
    refine ⟨e, ?_, by rw [if_neg hother, hname], ?_⟩
    · rw [entities_property hkind, hh.childText?_identifier, he]
      rfl
    · rw [hsignature, propertySignature_eq hh, hstrip]

theorem rule_of_level_ne (file : File) {scope : Scope} (hlevel : scope.level ≠ .file) (before : List Tree) (t : Tree) :
    rule file scope before t = memberRule file scope before t := by
  cases hl : scope.level with
  | file => exact absurd hl hlevel
  | members => simp only [rule, hl]
  | promises => simp only [rule, hl]

/-- Members are found inside of types only. -/
theorem level_ne_of_mem_rule {tail : String} {kinds : List String} (hm : IsMember h t tail kinds) {file : File}
    {scope : Scope} {before : List Tree} {e : Entity} (he : e ∈ (rule file scope before t).entities) :
    scope.level ≠ .file := by
  intro hl
  have hkind : t.kind = "method_declaration" ∨ t.kind = "property_declaration" := by
    cases hm with
    | method hkind => exact Or.inl hkind
    | property hkind => exact Or.inr hkind
  rcases hkind with hkind | hkind <;> simp [rule, hl, fileRule, typeRule, hkind, Found.nothing] at he

/-- **When the name and the signature of a member agree.** A method or a property of C# has a header: modifiers, a type, a
name, and then parameters or accessors. Wherever members are looked for, exactly one entity is found there. A method gets
its name, and a property the first identifier of its header, which is the type if that is an identifier. The signature
shows the first node of a known kind as the type, and the first identifier as the name. So the name and the signature are
those of the header if and only if the type is of a known kind and no identifier, or reads like the name. -/
theorem signatures_agree_iff {l : Language} (hl : l ∈ languages) (hname : l.name = "csharp") {tail : String}
    {kinds : List String} (hh : h.Heads t) (hm : IsMember h t tail kinds) :
    (∀ file scope before, scope.level ≠ .file → ∃ e, (l.rule file scope before t).entities = [e]) ∧
      ∀ path tree e, (t, e) ∈ l.sightings path tree →
        e.name = (if t.kind = "method_declaration" then h.name.text else h.first ["identifier"]) ∧
        e.signature = h.line (h.first kinds) (h.first ["identifier"]) tail ∧
        (e.name = h.name.text ∧ e.signature = h.line h.type.text h.name.text tail ↔
          h.type.kind ∈ kinds ∧ h.type.kind ≠ "identifier" ∨ h.type.text = h.name.text) := by
  have hrule : l.rule = rule := rule_eq_of_name hl (List.getElem_mem (n := 6) (by decide)) hname
  refine ⟨fun file scope before hlevel => ?_, fun path tree e he => ?_⟩
  · obtain ⟨e, he, -⟩ := exists_entity_of_isMember hm hh file scope before
    exact ⟨e, by rw [hrule, rule_of_level_ne file hlevel, he]⟩
  obtain ⟨-, scope, before, hfound⟩ := of_mem_sightingsBelow (Q := fun _ => True) (fun _ _ _ _ => trivial) _ tree trivial
    (t, e) he
  rw [hrule] at hfound
  have hlevel := level_ne_of_mem_rule hm hfound
  rw [rule_of_level_ne _ hlevel] at hfound
  obtain ⟨e', he', hnamed, hsignature⟩ := exists_entity_of_isMember hm hh ⟨path.toString, l.dialect (suffixOf path)⟩ scope
    before
  obtain rfl : e = e' := List.mem_singleton.mp (he' ▸ hfound)
  refine ⟨hnamed, hsignature, ?_⟩
  rw [hsignature, h.line_first_eq_iff hm.identifier_mem]
  -- with the signature the name is right as well
  refine and_iff_right_of_imp fun hagree => ?_
  rw [hnamed]
  split
  · rfl
  rw [Header.first]
  split
  · next htype => exact hagree.resolve_left fun hshown => hshown.2 (by simpa using htype)
  · rfl

end CSharp

end Language

namespace Sample

/-- The header of a public member with a type that is an identifier. -/
def userHeader (name : String) (rest : List Tree) : Language.Header where
  front := [leaf "modifier" "public"]
  type := leaf "identifier" "User"
  name := leaf "identifier" name
  rest := rest

/-- A node with such a header. -/
def userMember (kind name : String) (rest : List Tree) : Tree :=
  .node kind "" 1 1 ((userHeader name rest).front ++ (userHeader name rest).type :: (userHeader name rest).name :: rest)

/-- A method that returns a user. -/
def getUser : Tree := userMember "method_declaration" "GetUser" [leaf "parameter_list" "(int id)", leaf "block" ""]

/-- A property that holds a user. -/
def owner : Tree := userMember "property_declaration" "Owner" [leaf "accessor_list" ""]

/-- A class with both. -/
def account : Tree :=
  .node "compilation_unit" "" 0 3 [.node "class_declaration" "" 0 3 [leaf "identifier" "Account",
    .node "declaration_list" "" 0 3 [getUser, owner]]]

theorem heads_userMember {kind name : String} {rest : List Tree} (hname : Text.Solid name)
    (hrest : ∀ c ∈ rest, c.kind ≠ "modifier") : (userHeader name rest).Heads (userMember kind name rest) where
  children := rfl
  front c hc := by
    rw [List.mem_singleton.mp hc]
    exact ⟨by decide, fun _ => show Text.Solid "public" by decide⟩
  type := show "identifier" ≠ "modifier" ∧ "identifier" ≠ "parameter_list" ∧ Text.Solid "User" by decide
  name := ⟨rfl, hname⟩
  rest := hrest

end Sample

/-- A method and a property with a type that is an identifier. Both signatures show the type in place of the name, and
the property is even named like its type. -/
theorem signatures_repeat_type : ∃ l ∈ languages, l.name = "csharp" ∧
    (∃ e, (Sample.getUser, e) ∈ l.sightings (.relative ["a.cs"]) Sample.account ∧
      e.name = "GetUser" ∧ e.signature = "public User User(int id)" ∧
      ¬ (e.name = "GetUser" ∧ e.signature = "public User GetUser(int id)")) ∧
    ∃ e, (Sample.owner, e) ∈ l.sightings (.relative ["a.cs"]) Sample.account ∧
      e.name = "User" ∧ e.signature = "public User User \x7b get; set; \x7d" ∧
      ¬ (e.name = "Owner" ∧ e.signature = "public User Owner \x7b get; set; \x7d") := by
  have hl : languages.get ⟨6, by decide⟩ ∈ languages := List.get_mem _ _
  refine ⟨_, hl, rfl, ?_, ?_⟩
  · obtain ⟨e, he⟩ : ∃ e, (Sample.getUser, e) ∈
        (languages.get ⟨6, by decide⟩).sightings (.relative ["a.cs"]) Sample.account :=
      ⟨_, List.mem_cons_of_mem _ List.mem_cons_self⟩
    have hh : (Sample.userHeader "GetUser" [Sample.leaf "parameter_list" "(int id)", Sample.leaf "block" ""]).Heads
        Sample.getUser := Sample.heads_userMember (by decide) (by decide)
    have hm : Language.IsMember
        (Sample.userHeader "GetUser" [Sample.leaf "parameter_list" "(int id)", Sample.leaf "block" ""])
        Sample.getUser (Sample.leaf "parameter_list" "(int id)").text ("void_keyword" :: Language.CSharp.typeKinds) :=
      .method rfl (List.nil_append _).symm (List.forall_mem_nil _) (by decide)
    obtain ⟨hname, hsignature, hagree⟩ := (Language.CSharp.signatures_agree_iff hl rfl hh hm).2 _ _ e he
    refine ⟨e, he, hname, hsignature.trans (by decide +kernel), fun h => ?_⟩
    exact absurd (hagree.mp h) (by decide)
  · obtain ⟨e, he⟩ : ∃ e, (Sample.owner, e) ∈
        (languages.get ⟨6, by decide⟩).sightings (.relative ["a.cs"]) Sample.account :=
      ⟨_, List.mem_cons_of_mem _ (List.mem_cons_of_mem _ List.mem_cons_self)⟩
    have hh : (Sample.userHeader "Owner" [Sample.leaf "accessor_list" ""]).Heads Sample.owner :=
      Sample.heads_userMember (by decide) (by decide)
    have hm := Language.IsMember.property (h := Sample.userHeader "Owner" [Sample.leaf "accessor_list" ""])
      (t := Sample.owner) rfl
    obtain ⟨hname, hsignature, hagree⟩ := (Language.CSharp.signatures_agree_iff hl rfl hh hm).2 _ _ e he
    refine ⟨e, he, hname.trans (by decide +kernel), hsignature.trans (by decide +kernel), fun h => ?_⟩
    exact absurd (hagree.mp h) (by decide)

end CodeAtlas
