import Mathlib
import CodeAtlas.Proofs.Language.Callees

/-!
# Headers of implementation blocks

An implementation block of Rust names a type, and a trait in front of the word `for` if it implements one. The type and
the trait may be generic: such a node stands for the type it starts with. Two scans go through the nodes of a header. One
looks for the type that is implemented, and sees plain and generic types alike. The other looks for the trait, and sees
plain types only.

So the type is always found, but a generic trait is not: the block is then taken for one that implements no trait.

## Main definitions

* `Rust.HeaderType`: a plain or generic type, with its name
* `Rust.Heads`: the nodes of a header, with its trait and its type
* `Rust.labels`: the name, the signature and the bases that a block should have

## Main results

* `Rust.Heads.implementedType?_eq`, `Rust.Heads.implementedTrait?_eq`: what the two scans find
* `Rust.headers_agree_iff`: a block is labelled by its header exactly if its trait is not generic
-/

namespace CodeAtlas

namespace Language.Rust

/-! ## Types and other nodes of a header -/

/-- A node names a type: it is one, or it is a generic type that starts with one. -/
inductive Names (t : Tree) (name : String) : Prop
  /-- A plain type. -/
  | plain (hkind : t.kind = "type_identifier") (htext : t.text = name) (hname : name ≠ "" ∧ name ≠ "for")
  /-- A generic type, named by its first plain type. -/
  | generic {base : Tree} {front rest : List Tree} (hkind : t.kind = "generic_type") (htext : t.text ≠ "for")
      (hchildren : t.children = front ++ base :: rest) (hfront : ∀ c ∈ front, c.kind ≠ "type_identifier")
      (hbase : base.kind = "type_identifier" ∧ base.text = name) (hname : name ≠ "")

/-- A type of a header, with its name. -/
structure HeaderType where
  /-- The node. -/
  node : Tree
  /-- The name that the node is reduced to. -/
  name : String
  names : Names node name

/-- A type without arguments. -/
def HeaderType.IsPlain (x : HeaderType) : Prop :=
  x.node.kind = "type_identifier"

instance (x : HeaderType) : Decidable x.IsPlain :=
  inferInstanceAs (Decidable (x.node.kind = "type_identifier"))

/-- A node that is neither a type nor the word `for`: the word `impl`, type parameters, a comment, and so on. -/
structure Filler (t : Tree) : Prop where
  kind_ne_plain : t.kind ≠ "type_identifier"
  kind_ne_generic : t.kind ≠ "generic_type"
  text_ne : t.text ≠ "for"

namespace HeaderType

variable (x : HeaderType)

theorem text_ne : x.node.text ≠ "for" := by
  cases x.names with
  | plain _ htext hname => exact htext ▸ hname.2
  | generic _ htext => exact htext

/-- The scan for the implemented type reads the name of every type. -/
theorem headerType?_eq : headerType? x.node = some x.name := by
  cases x.names with
  | plain hkind htext hname => simp [headerType?, hkind, Tree.text?, htext, hname.1]
  | @generic base front rest hkind _ hchildren hfront hbase hname =>
    have hnone : front.find? (·.kind == "type_identifier") = none := by
      rw [List.find?_eq_none]
      exact fun c hc => by simpa using hfront c hc
    have hchild : x.node.child? "type_identifier" = some base := by
      rw [Tree.child?, hchildren, List.find?_append, hnone, Option.none_or, List.find?_cons_of_pos (by simp [hbase.1])]
    simp [headerType?, hkind, Tree.childText?, hchild, Tree.text?, hbase.2, hname]

theorem text_of_isPlain {x : HeaderType} (h : x.IsPlain) : x.node.text = x.name ∧ x.name ≠ "" := by
  cases x.names with
  | plain _ htext hname => exact ⟨htext, hname.1⟩
  | generic hkind => exact absurd (hkind.symm.trans h) (by decide)

end HeaderType

theorem Filler.headerType?_eq {t : Tree} (h : Filler t) : headerType? t = none := by
  simp [headerType?, h.kind_ne_plain, h.kind_ne_generic]

/-! ## The two scans -/

section Scans

variable {seen : Bool} {first : Option String} {front ts : List Tree}

/-- The scan for the type passes over fillers. -/
theorem typeFrom_append (hfront : ∀ c ∈ front, Filler c) :
    typeFrom seen first (front ++ ts) = typeFrom seen first ts := by
  induction front with
  | nil => rfl
  | cons c front ih =>
    obtain ⟨hc, hfront⟩ := List.forall_mem_cons.mp hfront
    simp [typeFrom, hc.text_ne, hc.headerType?_eq, ih hfront]

/-- The scan for the trait passes over fillers. -/
theorem traitFrom_append (hfront : ∀ c ∈ front, Filler c) : traitFrom first (front ++ ts) = traitFrom first ts := by
  induction front with
  | nil => rfl
  | cons c front ih =>
    obtain ⟨hc, hfront⟩ := List.forall_mem_cons.mp hfront
    simp [traitFrom, hc.kind_ne_plain, hc.text_ne, ih hfront]

theorem typeFrom_cons (x : HeaderType) :
    typeFrom seen first (x.node :: ts) =
      if seen then some x.name else typeFrom false (first.or (some x.name)) ts := by
  simp [typeFrom, x.text_ne, x.headerType?_eq]

theorem traitFrom_cons (x : HeaderType) :
    traitFrom first (x.node :: ts) =
      traitFrom (if x.IsPlain then first.or (some x.name) else first) ts := by
  by_cases hx : x.IsPlain
  · obtain ⟨htext, hne⟩ := HeaderType.text_of_isPlain hx
    have hkind : x.node.kind = "type_identifier" := hx
    simp [traitFrom, hkind, htext, hne, hx]
  · have hkind : x.node.kind ≠ "type_identifier" := hx
    simp [traitFrom, hkind, x.text_ne, hx]

/-- Where the word `for` does not come, the first type is the implemented one. -/
theorem typeFrom_of_forall_ne {name : String} (hts : ∀ c ∈ ts, c.text ≠ "for") :
    typeFrom false (some name) ts = some name := by
  induction ts with
  | nil => rfl
  | cons c ts ih =>
    obtain ⟨hc, hts⟩ := List.forall_mem_cons.mp hts
    cases htype : headerType? c <;> simp [typeFrom, hc, htype, ih hts]

/-- Where the word `for` does not come, there is no trait. -/
theorem traitFrom_of_forall_ne (hts : ∀ c ∈ ts, c.text ≠ "for") : traitFrom first ts = none := by
  induction ts generalizing first with
  | nil => rfl
  | cons c ts ih =>
    obtain ⟨hc, hts⟩ := List.forall_mem_cons.mp hts
    rw [traitFrom]
    split
    · exact ih hts
    · simp [hc, ih hts]

end Scans

/-! ## Headers -/

/-- The nodes of a block, with the trait and the type of its header. -/
inductive Heads : List Tree → Option HeaderType → HeaderType → Prop
  /-- A block of a type alone. -/
  | inherent {front rest : List Tree} {type : HeaderType} (hfront : ∀ c ∈ front, Filler c)
      (hrest : ∀ c ∈ rest, c.text ≠ "for") : Heads (front ++ type.node :: rest) none type
  /-- A block of a trait for a type. -/
  | ofTrait {front middle between rest : List Tree} {word : Tree} {trait type : HeaderType}
      (hfront : ∀ c ∈ front, Filler c) (hmiddle : ∀ c ∈ middle, Filler c)
      (hword : word.kind = "for" ∧ word.text = "for") (hbetween : ∀ c ∈ between, Filler c) :
      Heads (front ++ trait.node :: (middle ++ word :: (between ++ type.node :: rest))) (some trait) type

namespace Heads

variable {t : Tree} {trait? : Option HeaderType} {type : HeaderType} (h : Heads t.children trait? type)

include h

/-- **The type of a block** is found in every header. -/
theorem implementedType?_eq : implementedType? t = some type.name := by
  rw [implementedType?]
  generalize t.children = nodes at h
  cases h with
  | inherent hfront hrest =>
    rw [typeFrom_append hfront, typeFrom_cons]
    exact typeFrom_of_forall_ne hrest
  | @ofTrait _ _ _ _ word trait _ hfront hmiddle hword hbetween =>
    rw [typeFrom_append hfront, typeFrom_cons, if_neg Bool.false_ne_true, typeFrom_append hmiddle, typeFrom,
      if_pos (by simp [hword.2]), typeFrom_append hbetween, typeFrom_cons, if_pos rfl]

/-- **The trait of a block** is found only if it is a plain type. -/
theorem implementedTrait?_eq : implementedTrait? t = (trait?.filter (·.IsPlain)).map HeaderType.name := by
  rw [implementedTrait?]
  generalize t.children = nodes at h
  cases h with
  | inherent hfront hrest =>
    rw [traitFrom_append hfront, traitFrom_cons]
    exact traitFrom_of_forall_ne hrest
  | @ofTrait _ _ _ _ word trait _ hfront hmiddle hword hbetween =>
    rw [traitFrom_append hfront, traitFrom_cons, traitFrom_append hmiddle, traitFrom, if_neg (by simp [hword.1]),
      if_pos (by simp [hword.2])]
    by_cases hplain : trait.IsPlain <;> simp [hplain, Option.filter]

end Heads

/-! ## Labels -/

/-- The name, the signature and the bases of a block for a type, with the trait that it implements. -/
def labels (trait? : Option String) (type : String) : String × String × List String :=
  match trait? with
  | some trait => (type ++ "::" ++ trait, "impl " ++ trait ++ " for " ++ type, [trait])
  | none => (type, "impl " ++ type, [])

/-- The labels tell the trait. -/
theorem labels_inj {a b : Option String} {type : String} : labels a type = labels b type ↔ a = b := by
  refine ⟨fun h => ?_, fun h => h ▸ rfl⟩
  have hbases : (labels a type).2.2 = (labels b type).2.2 := by rw [h]
  cases a <;> cases b <;> simp_all [labels]

theorem exists_implementation? {t : Tree} {trait? : Option HeaderType} {type : HeaderType}
    (h : Heads t.children trait? type) (file : File) :
    ∃ e, implementation? file t = some e ∧ e.kind = .implementation ∧
      (e.name, e.signature, e.bases) = labels ((trait?.filter (·.IsPlain)).map HeaderType.name) type.name := by
  unfold implementation?
  rw [h.implementedType?_eq, h.implementedTrait?_eq]
  cases (trait?.filter (·.IsPlain)).map HeaderType.name with
  | none => exact ⟨_, rfl, rfl, rfl⟩
  | some trait => exact ⟨_, rfl, rfl, rfl⟩

theorem entities_block {t : Tree} (hkind : t.kind = "impl_item") (file : File) {scope : Scope}
    (hlevel : scope.level = .file) (before : List Tree) :
    (rule file scope before t).entities = (implementation? file t).toList := by
  simp only [rule, hlevel, fileRule, hkind]
  cases implementation? file t <;> simp [optionalContainer, Found.nothing, Found.container]

/-- Blocks are found at the level of a file or a module only. -/
theorem level_eq_of_mem_rule {t : Tree} (hkind : t.kind = "impl_item") {file : File} {scope : Scope} {before : List Tree}
    {e : Entity} (he : e ∈ (rule file scope before t).entities) : scope.level = .file := by
  cases hl : scope.level with
  | file => rfl
  | members => simp [rule, hl, hkind, Found.nothing] at he
  | promises => simp [rule, hl, hkind, Found.nothing] at he

/-- **When a block is labelled by its header.** A block of Rust has a header: a trait and the word `for` if it implements
one, and a type, each of them plain or generic, among fillers. Wherever declarations are looked for, exactly one entity is
found there, with the type of the header. It has the trait of the header if that is a plain type. A generic trait is
missed, and then the entity has the labels of a block that implements no trait. So the labels are those of the header if
and only if there is no trait, or the trait is a plain type. -/
theorem headers_agree_iff {l : Language} (hl : l ∈ languages) (hname : l.name = "rust") {t : Tree}
    {trait? : Option HeaderType} {type : HeaderType} (hkind : t.kind = "impl_item")
    (hh : Heads t.children trait? type) :
    (∀ file scope before, scope.level = .file → ∃ e, (l.rule file scope before t).entities = [e]) ∧
      ∀ path tree e, (t, e) ∈ l.sightings path tree →
        e.kind = .implementation ∧
        (e.name, e.signature, e.bases) = labels ((trait?.filter (·.IsPlain)).map HeaderType.name) type.name ∧
        ((e.name, e.signature, e.bases) = labels (trait?.map HeaderType.name) type.name ↔ ∀ x ∈ trait?, x.IsPlain) := by
  have hrule : l.rule = rule := rule_eq_of_name hl (List.getElem_mem (n := 3) (by decide)) hname
  refine ⟨fun file scope before hlevel => ?_, fun path tree e he => ?_⟩
  · obtain ⟨e, he, -⟩ := exists_implementation? hh file
    exact ⟨e, by rw [hrule, entities_block hkind file hlevel, he]; rfl⟩
  obtain ⟨-, scope, before, hfound⟩ := of_mem_sightingsBelow (Q := fun _ => True) (fun _ _ _ _ => trivial) _ tree trivial
    (t, e) he
  rw [hrule] at hfound
  rw [entities_block hkind _ (level_eq_of_mem_rule hkind hfound)] at hfound
  obtain ⟨e', he', hsort, hlabels⟩ := exists_implementation? hh ⟨path.toString, l.dialect (suffixOf path)⟩
  obtain rfl : e = e' := by simpa [he'] using hfound
  refine ⟨hsort, hlabels, ?_⟩
  rw [hlabels, labels_inj]
  -- a filter leaves an optional value as it is exactly if the value passes
  cases trait? with
  | none => simp
  | some x => by_cases hx : x.IsPlain <;> simp [Option.filter, hx]

end Language.Rust

namespace Sample

/-- A generic type with one argument. -/
def generic (name : String) (hname : name ≠ "") (htext : name ++ "<T>" ≠ "for") : Language.Rust.HeaderType where
  node := .node "generic_type" (name ++ "<T>") 1 1 [leaf "type_identifier" name, leaf "type_arguments" "<T>"]
  name := name
  names := .generic rfl htext (List.nil_append _).symm (List.forall_mem_nil _) ⟨rfl, rfl⟩ hname

/-- The trait `From<T>`. -/
def conversionTrait : Language.Rust.HeaderType := generic "From" (by decide) (by decide)

/-- The type `Wrapper<T>`. -/
def wrapperType : Language.Rust.HeaderType := generic "Wrapper" (by decide) (by decide)

/-- The words in front of the trait. -/
def conversionFront : List Tree := [leaf "impl" "impl", leaf "type_parameters" "<T>"]

/-- A block that implements the trait for the type. -/
def conversion : Tree :=
  .node "impl_item" "" 1 1 (conversionFront ++ conversionTrait.node ::
    ([] ++ leaf "for" "for" :: ([] ++ wrapperType.node :: [leaf "declaration_list" ""])))

theorem heads_conversion : Language.Rust.Heads conversion.children (some conversionTrait) wrapperType :=
  .ofTrait (by simpa [conversionFront] using ⟨⟨by decide, by decide, by decide⟩, by decide, by decide, by decide⟩)
    (List.forall_mem_nil _) ⟨rfl, rfl⟩ (List.forall_mem_nil _)

end Sample

/-- A block of a generic trait for a generic type. The type is found and the trait is not. -/
theorem generic_trait_missed : ∃ l ∈ languages, l.name = "rust" ∧
    ∃ e, (Sample.conversion, e) ∈ l.sightings (.relative ["a.rs"]) (.node "source_file" "" 0 1 [Sample.conversion]) ∧
      e.name = "Wrapper" ∧ e.signature = "impl Wrapper" ∧ e.bases = [] ∧
      (e.name, e.signature, e.bases) ≠ ("Wrapper::From", "impl From for Wrapper", ["From"]) := by
  have hl : languages.get ⟨3, by decide⟩ ∈ languages := List.get_mem _ _
  obtain ⟨e, he⟩ : ∃ e, (Sample.conversion, e) ∈ (languages.get ⟨3, by decide⟩).sightings (.relative ["a.rs"])
      (.node "source_file" "" 0 1 [Sample.conversion]) := ⟨_, List.mem_cons_self⟩
  obtain ⟨-, hlabels, hagree⟩ := (Language.Rust.headers_agree_iff hl rfl rfl Sample.heads_conversion).2 _ _ e he
  have hfound : (e.name, e.signature, e.bases) = ("Wrapper", "impl Wrapper", []) := hlabels.trans (by decide +kernel)
  obtain ⟨hname, hrest⟩ := Prod.mk.inj hfound
  obtain ⟨hsignature, hbases⟩ := Prod.mk.inj hrest
  refine ⟨_, hl, rfl, e, he, hname, hsignature, hbases, fun h => ?_⟩
  exact absurd (hagree.mp h _ rfl) (by decide)

end CodeAtlas
