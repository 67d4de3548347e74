import Mathlib
import CodeAtlas.Proofs.Language.Names

/-!
# How declarations are nested

The identifier of a declaration continues that of the declaration around it, and the declaration around it is found
as well. This is a matter of one node at a time: what a rule finds hangs where the walk is, and the walk goes on where
it was, at the top of the file, or inside something found. Only one kind of declaration has an identifier of its own
make, the block that implements a type for itself.

## Main definitions

* `Entity.Made`: the identifier is made of the parent and the name
* `Entity.Inherent`: the identifier of a block that implements a type for itself
* `Entity.Formed`: one of the two
* `Language.Found.Nested`: what is found hangs where the walk is
* `Nests`: every entity has its parent among the others
* `Language.FoundAt`: entities that a rule makes of a node

## Main results

* `Language.hangs_of_mem_walk`: what holds of a rule at each node holds of the walk
* `Language.foundAt_of_mem_rule`: in every language a rule makes its entities of the node at which it is applied
* `Language.nests_made_outline`, `Language.nests_formed_outline`: how the entities of a source file are nested
-/

namespace CodeAtlas

/-- The identifier of an entity is made of its parent and its name. -/
def Entity.Made (path : String) (e : Entity) : Prop :=
  e.id = makeId path e.parent e.name

/-- An entity of a block that implements a type for itself: its identifier continues that of the type. -/
def Entity.Inherent (path : String) (e : Entity) : Prop :=
  e.parent = none ∧ e.id = makeId path none (e.name ++ "::impl")

instance (path : String) (e : Entity) : Decidable (e.Inherent path) :=
  inferInstanceAs (Decidable (_ ∧ _))

/-- An entity that is made in one of the two ways. -/
def Entity.Formed (path : String) (e : Entity) : Prop :=
  e.Made path ∨ e.Inherent path

/-- Entities of a kind, each of which has its parent among them. -/
def Nests (P : Entity → Prop) (es : List Entity) : Prop :=
  ∀ e ∈ es, P e ∧ ∀ p, e.parent = some p → ∃ e' ∈ es, e'.id = p

namespace Language

/-! ## What a rule finds -/

/-- A parent is none, that of the scope, or among some entities. -/
def Hangs (scope : Scope) (es : List Entity) (parent : Option String) : Prop :=
  parent = none ∨ parent = scope.parent ∨ ∃ e ∈ es, parent = some e.id

theorem Hangs.mono {scope : Scope} {es es' : List Entity} (hsub : es ⊆ es') {parent : Option String}
    (h : Hangs scope es parent) : Hangs scope es' parent := by
  rcases h with h | h | ⟨e, he, h⟩
  · exact Or.inl h
  · exact Or.inr (Or.inl h)
  · exact Or.inr (Or.inr ⟨e, hsub he, h⟩)

/-- An entity of a kind that hangs where the walk is. -/
def Declares (P : Entity → Prop) (scope : Scope) (e : Entity) : Prop :=
  P e ∧ Hangs scope [] e.parent

/-- The scope in which more is looked for. -/
def Inside.scope? : Inside → Option Scope
  | .nowhere => none
  | .children scope => some scope
  | .body _ scope => some scope

/-- What is found is of a kind and hangs where the walk is, and more is looked for there or in something found. -/
structure Found.Nested (P : Entity → Prop) (scope : Scope) (f : Found) : Prop where
  each : ∀ e ∈ f.entities, Declares P scope e
  inside : ∀ inner ∈ f.inside.scope?, Hangs scope f.entities inner.parent

namespace Found

variable {P : Entity → Prop} {scope : Scope}

theorem Nested.mono {Q : Entity → Prop} (hPQ : ∀ e, P e → Q e) {f : Found} (h : f.Nested P scope) :
    f.Nested Q scope where
  each := fun e he => ⟨hPQ e (h.each e he).1, (h.each e he).2⟩
  inside := h.inside

/-- Nothing is found here, and more is looked for at the top of the file or where the walk is. -/
theorem nested_below {inside : Inside}
    (h : ∀ inner ∈ inside.scope?, inner.parent = none ∨ inner.parent = scope.parent) : Nested P scope ⟨[], inside⟩ where
  each := by
    intro e he
    cases he
  inside := by
    intro inner hinner
    rcases h inner hinner with hnone | hsame
    · exact Or.inl hnone
    · exact Or.inr (Or.inl hsame)

theorem nested_nothing : nothing.Nested P scope := by
  refine nested_below fun inner hinner => ?_
  cases hinner

theorem nested_through : (through scope).Nested P scope := by
  refine nested_below fun inner hinner => Or.inr ?_
  rw [Option.some.inj hinner]

theorem nested_into (kind : String) {inner : Scope} (h : inner.parent = none ∨ inner.parent = scope.parent) :
    (into kind inner).Nested P scope := by
  refine nested_below fun inner' hinner => ?_
  obtain rfl := Option.some.inj hinner
  exact h

theorem nested_only {entities : List Entity} (h : ∀ e ∈ entities, Declares P scope e) :
    (only entities).Nested P scope where
  each := h
  inside := by
    intro inner hinner
    cases hinner

theorem nested_container {e : Entity} (h : Declares P scope e) (kind : String) (level : Level) :
    (container e kind level).Nested P scope := by
  constructor
  · intro e' he
    rw [List.mem_singleton.mp he]
    exact h
  · intro inner hinner
    obtain rfl := Option.some.inj hinner
    exact Or.inr (Or.inr ⟨e, List.mem_singleton_self e, rfl⟩)

/-- A container whose entity may be missing. -/
theorem nested_optional {e? : Option Entity} (kind : String) (level : Level) :
    (∀ e ∈ e?, Declares P scope e) → Nested P scope (match e? with
      | some e => .container e kind level
      | none => .nothing) := by
  intro h
  cases e? with
  | some e => exact nested_container (h e rfl) kind level
  | none => exact nested_nothing

theorem nested_toList {e? : Option Entity} (h : ∀ e ∈ e?, Declares P scope e) : (only e?.toList).Nested P scope :=
  nested_only fun e he => h e (Option.mem_toList.mp he)

end Found

/-! ## What the walk finds -/

mutual

/-- **What holds of a rule at each node holds of the walk**: its entities hang at its start, or from each other. -/
theorem hangs_of_mem_walk {P : Entity → Prop} {rule : Rule} (h : ∀ scope before t, (rule scope before t).Nested P scope)
    (scope : Scope) (before : List Tree) (t : Tree) :
    ∀ e ∈ walk rule scope before t, P e ∧ Hangs scope (walk rule scope before t) e.parent := by
  cases t with
  | node kind text firstRow lastRow children =>
    intro e he
    rw [walk] at he ⊢
    have hfound := h scope before (.node kind text firstRow lastRow children)
    rcases List.mem_append.mp he with he | he
    · obtain ⟨hP, hhangs⟩ := hfound.each e he
      exact ⟨hP, hhangs.mono (List.nil_subset _)⟩
    · -- what is found inside hangs from what was found here, or from something else inside
      have hinside : ∀ inner es, inner ∈ (rule scope before (.node kind text firstRow lastRow children)).inside.scope? →
          P e ∧ Hangs inner es e.parent → P e ∧ Hangs scope
            ((rule scope before (.node kind text firstRow lastRow children)).entities ++ es) e.parent := by
        rintro inner es hinner ⟨hP, hnone | hstart | ⟨e', he', hparent⟩⟩
        · exact ⟨hP, Or.inl hnone⟩
        · exact ⟨hP, hstart ▸ (hfound.inside inner hinner).mono (List.subset_append_left _ _)⟩
        · exact ⟨hP, Or.inr (Or.inr ⟨e', List.mem_append_right _ he', hparent⟩)⟩
      split at he
      · cases he
      · next inner hwhere => exact hinside inner _ (by rw [hwhere]; rfl) (hangs_of_mem_walkList h _ _ children e he)
      · next inner hwhere => exact hinside inner _ (by rw [hwhere]; rfl) (hangs_of_mem_walkBody h _ _ children e he)

theorem hangs_of_mem_walkList {P : Entity → Prop} {rule : Rule}
    (h : ∀ scope before t, (rule scope before t).Nested P scope) (scope : Scope) (before : List Tree) (ts : List Tree) :
    ∀ e ∈ walkList rule scope before ts, P e ∧ Hangs scope (walkList rule scope before ts) e.parent := by
  cases ts with
  | nil =>
    intro e he
    rw [walkList] at he
    cases he
  | cons t ts =>
    intro e he
    rw [walkList] at he ⊢
    rcases List.mem_append.mp he with he | he
    · obtain ⟨hP, hhangs⟩ := hangs_of_mem_walk h scope before t e he
      exact ⟨hP, hhangs.mono (List.subset_append_left _ _)⟩
    · obtain ⟨hP, hhangs⟩ := hangs_of_mem_walkList h scope (t :: before) ts e he
      exact ⟨hP, hhangs.mono (List.subset_append_right _ _)⟩

theorem hangs_of_mem_walkBody {P : Entity → Prop} {rule : Rule}
    (h : ∀ scope before t, (rule scope before t).Nested P scope) (scope : Scope) (kind : String) (ts : List Tree) :
    ∀ e ∈ walkBody rule scope kind ts, P e ∧ Hangs scope (walkBody rule scope kind ts) e.parent := by
  cases ts with
  | nil =>
    intro e he
    rw [walkBody] at he
    cases he
  | cons t ts =>
    intro e he
    rw [walkBody] at he ⊢
    split at he
    · next hkind =>
      rw [if_pos hkind]
      exact hangs_of_mem_walkChildren h scope t e he
    · next hkind =>
      rw [if_neg hkind]
      exact hangs_of_mem_walkBody h scope kind ts e he

theorem hangs_of_mem_walkChildren {P : Entity → Prop} {rule : Rule}
    (h : ∀ scope before t, (rule scope before t).Nested P scope) (scope : Scope) (t : Tree) :
    ∀ e ∈ walkChildren rule scope t, P e ∧ Hangs scope (walkChildren rule scope t) e.parent := by
  cases t with
  | node kind text firstRow lastRow children =>
    rw [walkChildren]
    exact hangs_of_mem_walkList h scope [] children

end

theorem nests_walkChildren {P : Entity → Prop} {rule : Rule}
    (h : ∀ scope before t, (rule scope before t).Nested P scope) (t : Tree) : Nests P (walkChildren rule .top t) := by
  intro e he
  obtain ⟨hP, hnone | hstart | ⟨e', he', hparent⟩⟩ := hangs_of_mem_walkChildren h .top t e he
  · exact ⟨hP, fun p hp => by cases hnone.symm.trans hp⟩
  · exact ⟨hP, fun p hp => by cases hstart.symm.trans hp⟩
  · exact ⟨hP, fun p hp => ⟨e', he', Option.some.inj (hparent.symm.trans hp)⟩⟩

/-! ## The languages -/

/-- An entity of a declaration at a node. -/
def DeclaredAt (file : File) (t : Tree) (e : Entity) : Prop :=
  ∃ (d : Declared) (parent : Option String), d.node = t ∧ e = d.entity file parent

/-- An entity of a block at a node that implements a type for itself. -/
def BlockAt (file : File) (t : Tree) (e : Entity) : Prop :=
  ∃ d : Declared, d.node = t ∧
    e = { d.entity file none with id := Entity.makeId file.path none (d.name ++ "::impl") }

/-- An entity that a rule makes at a node. -/
def FoundAt (file : File) (t : Tree) (e : Entity) : Prop :=
  DeclaredAt file t e ∨ BlockAt file t e

theorem DeclaredAt.made {file : File} {t : Tree} {e : Entity} (h : DeclaredAt file t e) : e.Made file.path := by
  obtain ⟨d, parent, -, rfl⟩ := h
  rfl

theorem FoundAt.formed {file : File} {t : Tree} {e : Entity} (h : FoundAt file t e) : e.Formed file.path := by
  obtain hdeclared | ⟨d, -, rfl⟩ := h
  · exact Or.inl hdeclared.made
  · exact Or.inr ⟨rfl, rfl⟩

theorem Declares.found {file : File} {t : Tree} {scope : Scope} {e : Entity}
    (h : Declares (DeclaredAt file t) scope e) : Declares (FoundAt file t) scope e :=
  ⟨Or.inl h.1, h.2⟩

/-- A declaration with a parent that it may have, or none. -/
theorem declares_entity (file : File) {t : Tree} {name signature : String} {kind : EntityKind}
    {docstring : Option String} {calls bases : List String} {scope : Scope} {parent : Option String}
    (h : parent = none ∨ parent = scope.parent) :
    Declares (DeclaredAt file t) scope
      (Declared.entity ⟨t, name, kind, signature, docstring, calls, bases⟩ file parent) := by
  refine ⟨⟨_, parent, rfl, rfl⟩, ?_⟩
  rcases h with hnone | hsame
  · exact Or.inl hnone
  · exact Or.inr (Or.inl hsame)

theorem Python.nested_rule (file : File) (scope : Scope) (before : List Tree) (t : Tree) :
    (rule file scope before t).Nested (DeclaredAt file t) scope := by
  unfold rule
  split
  · refine Found.nested_only fun e he => ?_
    rw [List.mem_singleton.mp he]
    exact declares_entity file (Or.inr rfl)
  · split
    · exact Found.nested_container (declares_entity file (Or.inr rfl)) _ _
    · exact Found.nested_nothing

namespace Script

theorem declares_of_mem_documented (file : File) (scope : Scope) (before : List Tree) (t : Tree) (name? : Option String)
    (kind : EntityKind) (signature : String → String) (calls bases : List String) :
    ∀ e ∈ documented file scope before t name? kind signature calls bases,
      Declares (DeclaredAt file t) scope e := by
  intro e he
  unfold documented at he
  split at he
  · rw [List.mem_singleton.mp he]
    exact declares_entity file (Or.inr rfl)
  · cases he

theorem declares_of_mem_variableFunctions (file : File) (scope : Scope) (before : List Tree) (t : Tree) :
    ∀ e ∈ variableFunctions file scope before t, Declares (DeclaredAt file t) scope e := by
  intro e he
  obtain ⟨c, -, hc⟩ := List.mem_filterMap.mp he
  split at hc
  · split at hc
    · obtain rfl := Option.some.inj hc
      exact declares_entity file (Or.inr rfl)
    · cases hc
  · cases hc

theorem nested_fileRule (file : File) (scope : Scope) (before : List Tree) (t : Tree) :
    (fileRule file scope before t).Nested (DeclaredAt file t) scope := by
  unfold fileRule
  split
  · exact Found.nested_only (declares_of_mem_documented _ _ _ _ _ _ _ _ _)
  split
  · exact Found.nested_only (declares_of_mem_variableFunctions _ _ _ _)
  split
  · have hclass := declares_of_mem_documented file scope before t (name? t) .classType (classSignature t) []
      ((extended? t).toList ++ implemented t)
    split
    · next e he =>
      rw [he] at hclass
      exact Found.nested_container (hclass e List.mem_cons_self) _ _
    · exact Found.nested_nothing
  split
  · exact Found.nested_only (declares_of_mem_documented _ _ _ _ _ _ _ _ _)
  split
  · exact Found.nested_only (declares_of_mem_documented _ _ _ _ _ _ _ _ _)
  split
  · exact Found.nested_through
  · exact Found.nested_nothing

theorem nested_memberRule (file : File) (scope : Scope) (before : List Tree) (t : Tree) :
    (memberRule file scope before t).Nested (DeclaredAt file t) scope := by
  unfold memberRule
  split
  · exact Found.nested_only (declares_of_mem_documented _ _ _ _ _ _ _ _ _)
  split
  · split
    · exact Found.nested_only (declares_of_mem_documented _ _ _ _ _ _ _ _ _)
    · exact Found.nested_nothing
  · exact Found.nested_nothing

theorem nested_rule (file : File) (scope : Scope) (before : List Tree) (t : Tree) :
    (rule file scope before t).Nested (DeclaredAt file t) scope := by
  cases hl : scope.level with
  | file => simpa only [rule, hl] using nested_fileRule file scope before t
  | members => simpa only [rule, hl] using nested_memberRule file scope before t
  | promises => simpa only [rule, hl] using nested_memberRule file scope before t

end Script

namespace Rust

theorem declares_of_mem_function (file : File) (scope : Scope) (before : List Tree) (t : Tree) :
    ∀ e ∈ function file scope before t, Declares (DeclaredAt file t) scope e := by
  intro e he
  unfold function at he
  split at he
  · rw [List.mem_singleton.mp he]
    exact declares_entity file (Or.inr rfl)
  · cases he

theorem declares_of_mem_typeItem (file : File) (scope : Scope) (before : List Tree) (t : Tree) (kind : EntityKind) :
    ∀ e ∈ typeItem file before t kind, Declares (DeclaredAt file t) scope e :=
  forall_mem_named fun _ => declares_entity file (Or.inl rfl)

/-- A block that implements a trait is made like any other declaration, and one without a trait is not. -/
theorem declares_of_mem_implementation? (file : File) (scope : Scope) (t : Tree) :
    ∀ e ∈ implementation? file t, Declares (FoundAt file t) scope e := by
  intro e he
  obtain ⟨type, -, he⟩ := Option.bind_eq_some_iff.mp he
  split at he
  · obtain rfl := Option.some.inj he
    exact (declares_entity file (Or.inl rfl)).found
  · obtain rfl := Option.some.inj he
    exact ⟨Or.inr ⟨⟨t, type, .implementation, "impl " ++ type, none, [], []⟩, rfl, rfl⟩, Or.inl rfl⟩

theorem nested_rule (file : File) (scope : Scope) (before : List Tree) (t : Tree) :
    (rule file scope before t).Nested (FoundAt file t) scope := by
  have hfunction := fun e he => (declares_of_mem_function file scope before t e he).found
  have htype := fun kind e he => (declares_of_mem_typeItem file scope before t kind e he).found
  unfold rule
  split
  · unfold fileRule
    split
    · exact Found.nested_only hfunction
    split
    · exact Found.nested_toList (htype _)
    split
    · exact Found.nested_toList (htype _)
    split
    · exact Found.nested_optional _ _ (htype _)
    split
    · exact Found.nested_optional _ _ (declares_of_mem_implementation? file scope t)
    split
    · exact Found.nested_into _ (Or.inl rfl)
    · exact Found.nested_nothing
  · split
    · exact Found.nested_only hfunction
    · exact Found.nested_nothing
  · split
    · exact Found.nested_only hfunction
    · exact Found.nested_nothing

end Rust

namespace Java

theorem declares_of_mem_declared? (file : File) (scope : Scope) (before : List Tree) (t : Tree) (kind : EntityKind)
    (signature : String → String) (calls bases : List String) :
    ∀ e ∈ declared? file scope before t kind signature calls bases, Declares (DeclaredAt file t) scope e :=
  forall_mem_named fun _ => declares_entity file (Or.inr rfl)

theorem nested_method (file : File) (scope : Scope) (before : List Tree) (t : Tree) :
    (method file scope before t).Nested (DeclaredAt file t) scope :=
  Found.nested_toList (declares_of_mem_declared? _ _ _ _ _ _ _ _)

theorem nested_typeRule (file : File) (scope : Scope) (before : List Tree) (t : Tree) :
    (typeRule file scope before t).Nested (DeclaredAt file t) scope := by
  unfold typeRule
  split
  · exact Found.nested_optional _ _ (declares_of_mem_declared? _ _ _ _ _ _ _ _)
  split
  · exact Found.nested_optional _ _ (declares_of_mem_declared? _ _ _ _ _ _ _ _)
  split
  · exact Found.nested_toList (declares_of_mem_declared? _ _ _ _ _ _ _ _)
  · exact Found.nested_nothing

theorem nested_rule (file : File) (scope : Scope) (before : List Tree) (t : Tree) :
    (rule file scope before t).Nested (DeclaredAt file t) scope := by
  unfold rule
  split
  · split
    · exact Found.nested_toList (declares_of_mem_declared? _ _ _ _ _ _ _ _)
    split
    · exact Found.nested_through
    · exact nested_typeRule file scope before t
  · split
    · exact nested_method file scope before t
    split
    · exact Found.nested_toList (declares_of_mem_declared? _ _ _ _ _ _ _ _)
    · exact nested_typeRule file scope before t
  · split
    · exact nested_method file scope before t
    · exact Found.nested_nothing

end Java

namespace CFamily

theorem declares_of_mem_declared? (file : File) {scope : Scope} {parent : Option String}
    (h : parent = none ∨ parent = scope.parent) (before : List Tree) (t : Tree) (name? : Option String)
    (kind : EntityKind) (signature : String → String) (calls bases : List String) :
    ∀ e ∈ declared? file parent before t name? kind signature calls bases,
      Declares (DeclaredAt file t) scope e :=
  forall_mem_named fun _ => declares_entity file h

theorem nested_function (file : File) (scope : Scope) (before : List Tree) (t : Tree) :
    (Found.only (function file scope before t)).Nested (DeclaredAt file t) scope :=
  Found.nested_toList (declares_of_mem_declared? file (Or.inr rfl) _ _ _ _ _ _ _)

/-- Structures, enumerations and type names stand at the top of the file, wherever they are found. -/
theorem nested_fileRule (file : File) (scope : Scope) (before : List Tree) (t : Tree) :
    (fileRule file scope before t).Nested (DeclaredAt file t) scope := by
  unfold fileRule
  simp only
  split
  · exact nested_function file scope before t
  split
  · exact Found.nested_toList (declares_of_mem_declared? file (Or.inl rfl) _ _ _ _ _ _ _)
  split
  · exact Found.nested_toList (declares_of_mem_declared? file (Or.inl rfl) _ _ _ _ _ _ _)
  split
  · exact Found.nested_toList (declares_of_mem_declared? file (Or.inl rfl) _ _ _ _ _ _ _)
  split
  · exact Found.nested_optional _ _ (declares_of_mem_declared? file (Or.inr rfl) _ _ _ _ _ _ _)
  split
  · exact Found.nested_into _ (Or.inl rfl)
  split
  · exact Found.nested_through
  · exact Found.nested_nothing

theorem nested_rule (file : File) (scope : Scope) (before : List Tree) (t : Tree) :
    (rule file scope before t).Nested (DeclaredAt file t) scope := by
  unfold rule
  split
  · exact nested_fileRule file scope before t
  · split
    · exact nested_function file scope before t
    · exact Found.nested_nothing

end CFamily

namespace CSharp

theorem declares_of_mem_declared? (file : File) {scope : Scope} {parent : Option String}
    (h : parent = none ∨ parent = scope.parent) (before : List Tree) (t : Tree) (name? : Option String)
    (kind : EntityKind) (signature : String → String) (calls bases : List String) :
    ∀ e ∈ declared? file parent before t name? kind signature calls bases,
      Declares (DeclaredAt file t) scope e :=
  forall_mem_named fun _ => declares_entity file h

theorem nested_container (file : File) (scope : Scope) (before : List Tree) (t : Tree) (kind : EntityKind)
    (keyword : String) : (container file scope before t kind keyword).Nested (DeclaredAt file t) scope :=
  Found.nested_optional _ _ (declares_of_mem_declared? file (Or.inr rfl) _ _ _ _ _ _ _)

theorem nested_typeRule (file : File) (scope : Scope) (before : List Tree) (t : Tree) :
    (typeRule file scope before t).Nested (DeclaredAt file t) scope := by
  unfold typeRule
  split
  · exact nested_container _ _ _ _ _ _
  split
  · exact nested_container _ _ _ _ _ _
  split
  · exact nested_container _ _ _ _ _ _
  · exact Found.nested_nothing

theorem nested_fileRule (file : File) (scope : Scope) (before : List Tree) (t : Tree) :
    (fileRule file scope before t).Nested (DeclaredAt file t) scope := by
  unfold fileRule
  split
  · exact Found.nested_toList (declares_of_mem_declared? file (Or.inl rfl) _ _ _ _ _ _ _)
  split
  · exact nested_container _ _ _ _ _ _
  split
  · exact Found.nested_into _ (Or.inr rfl)
  split
  · exact Found.nested_through
  · exact nested_typeRule file scope before t

theorem nested_memberRule (file : File) (scope : Scope) (before : List Tree) (t : Tree) :
    (memberRule file scope before t).Nested (DeclaredAt file t) scope := by
  unfold memberRule
  simp only
  split
  · exact Found.nested_toList (declares_of_mem_declared? file (Or.inr rfl) _ _ _ _ _ _ _)
  split
  · exact Found.nested_toList (declares_of_mem_declared? file (Or.inr rfl) _ _ _ _ _ _ _)
  split
  · exact Found.nested_toList (declares_of_mem_declared? file (Or.inr rfl) _ _ _ _ _ _ _)
  · exact nested_typeRule file scope before t

theorem nested_rule (file : File) (scope : Scope) (before : List Tree) (t : Tree) :
    (rule file scope before t).Nested (DeclaredAt file t) scope := by
  cases hl : scope.level with
  | file => simpa only [rule, hl] using nested_fileRule file scope before t
  | members => simpa only [rule, hl] using nested_memberRule file scope before t
  | promises => simpa only [rule, hl] using nested_memberRule file scope before t

end CSharp

namespace Php

theorem declares_of_mem_declared? (file : File) {scope : Scope} {parent : Option String}
    (h : parent = none ∨ parent = scope.parent) (before : List Tree) (t : Tree) (kind : String → EntityKind)
    (signature : String → String) (calls bases : List String) :
    ∀ e ∈ declared? file parent before t kind signature calls bases, Declares (DeclaredAt file t) scope e :=
  forall_mem_named fun _ => declares_entity file h

theorem nested_fileRule (file : File) (scope : Scope) (before : List Tree) (t : Tree) :
    (fileRule file scope before t).Nested (DeclaredAt file t) scope := by
  unfold fileRule
  split
  · exact Found.nested_toList (declares_of_mem_declared? file (Or.inr rfl) _ _ _ _ _ _)
  split
  · exact Found.nested_optional _ _ (declares_of_mem_declared? file (Or.inr rfl) _ _ _ _ _ _)
  split
  · exact Found.nested_optional _ _ (declares_of_mem_declared? file (Or.inr rfl) _ _ _ _ _ _)
  split
  · exact Found.nested_optional _ _ (declares_of_mem_declared? file (Or.inr rfl) _ _ _ _ _ _)
  split
  · exact Found.nested_toList (declares_of_mem_declared? file (Or.inl rfl) _ _ _ _ _ _)
  split
  · exact Found.nested_into _ (Or.inr rfl)
  split
  · exact Found.nested_through
  · exact Found.nested_nothing

theorem nested_rule (file : File) (scope : Scope) (before : List Tree) (t : Tree) :
    (rule file scope before t).Nested (DeclaredAt file t) scope := by
  unfold rule
  split
  · exact nested_fileRule file scope before t
  · split
    · exact Found.nested_toList (declares_of_mem_declared? file (Or.inr rfl) _ _ _ _ _ _)
    · exact Found.nested_nothing

end Php

namespace Ruby

theorem declares_of_mem_declared? (file : File) (scope : Scope) (before : List Tree) (t : Tree)
    (name? : Option String) (kind : EntityKind) (signature : String → String) (calls bases : List String) :
    ∀ e ∈ declared? file scope before t name? kind signature calls bases, Declares (DeclaredAt file t) scope e :=
  forall_mem_named fun _ => declares_entity file (Or.inr rfl)

theorem nested_rule (file : File) (scope : Scope) (before : List Tree) (t : Tree) :
    (rule file scope before t).Nested (DeclaredAt file t) scope := by
  unfold rule
  simp only
  split
  · exact Found.nested_toList (declares_of_mem_declared? _ _ _ _ _ _ _ _ _)
  split
  · exact Found.nested_toList (declares_of_mem_declared? _ _ _ _ _ _ _ _ _)
  split
  · exact Found.nested_optional _ _ (declares_of_mem_declared? _ _ _ _ _ _ _ _ _)
  split
  · exact Found.nested_optional _ _ (declares_of_mem_declared? _ _ _ _ _ _ _ _ _)
  split
  · exact Found.nested_into _ (Or.inr rfl)
  split
  · exact Found.nested_through
  · exact Found.nested_nothing

end Ruby

namespace Go

/-- Methods hang from the type of their receiver, which may be declared in another file. -/
theorem declaredAt_of_mem_rule (file : File) (scope : Scope) (before : List Tree) (t : Tree) :
    ∀ e ∈ (rule file scope before t).entities, DeclaredAt file t e := by
  intro e he
  unfold rule at he
  split at he
  · split at he
    · simp only [Found.only, function] at he
      split at he
      · exact ⟨_, none, rfl, List.mem_singleton.mp he⟩
      · cases he
    split at he
    · simp only [Found.only, method] at he
      split at he
      · exact ⟨_, _, rfl, List.mem_singleton.mp he⟩
      · cases he
    split at he
    · cases he
    · cases he
  · split at he
    · simp only [Found.only, typeSpec] at he
      split at he
      · exact ⟨_, none, rfl, List.mem_singleton.mp he⟩
      · cases he
    · cases he

end Go

/-! ## The entities of a source file -/

/-- The languages in which all identifiers are made of the parent and the name. -/
theorem nested_declared_rule {l : Language} (hl : l ∈ languages)
    (hname : l.name ∈ ["python", "javascript", "java", "c_cpp", "csharp", "php", "ruby"]) (file : File) (scope : Scope)
    (before : List Tree) (t : Tree) : (l.rule file scope before t).Nested (DeclaredAt file t) scope := by
  simp only [languages, List.mem_cons, List.not_mem_nil, or_false] at hl
  rcases hl with rfl | rfl | rfl | rfl | rfl | rfl | rfl | rfl | rfl
  · exact Python.nested_rule file scope before t
  · exact Script.nested_rule file scope before t
  · simp at hname
  · simp at hname
  · exact Java.nested_rule file scope before t
  · exact CFamily.nested_rule file scope before t
  · exact CSharp.nested_rule file scope before t
  · exact Php.nested_rule file scope before t
  · exact Ruby.nested_rule file scope before t

theorem eq_rust_of_name {l : Language} (hl : l ∈ languages) (hname : l.name = "rust") : l.rule = Rust.rule := by
  simp only [languages, List.mem_cons, List.not_mem_nil, or_false] at hl
  rcases hl with rfl | rfl | rfl | rfl | rfl | rfl | rfl | rfl | rfl <;> first | rfl | simp at hname

/-- **In every language a rule makes its entities of the node** at which it is applied. -/
theorem foundAt_of_mem_rule {l : Language} (hl : l ∈ languages) (file : File) (scope : Scope) (before : List Tree)
    (t : Tree) : ∀ e ∈ (l.rule file scope before t).entities, FoundAt file t e := by
  intro e he
  simp only [languages, List.mem_cons, List.not_mem_nil, or_false] at hl
  rcases hl with rfl | rfl | rfl | rfl | rfl | rfl | rfl | rfl | rfl
  · exact Or.inl ((Python.nested_rule file scope before t).each e he).1
  · exact Or.inl ((Script.nested_rule file scope before t).each e he).1
  · exact Or.inl (Go.declaredAt_of_mem_rule file scope before t e he)
  · exact ((Rust.nested_rule file scope before t).each e he).1
  · exact Or.inl ((Java.nested_rule file scope before t).each e he).1
  · exact Or.inl ((CFamily.nested_rule file scope before t).each e he).1
  · exact Or.inl ((CSharp.nested_rule file scope before t).each e he).1
  · exact Or.inl ((Php.nested_rule file scope before t).each e he).1
  · exact Or.inl ((Ruby.nested_rule file scope before t).each e he).1

theorem nests_outline_of_rule {P : Entity → Prop} {l : Language} {file : Path}
    (h : ∀ scope before t, (l.rule ⟨file.toString, l.dialect (suffixOf file)⟩ scope before t).Nested P scope)
    (read : SyntaxReader) (content : Option ByteArray) : Nests P (l.outline read file content).entities := by
  unfold outline
  split
  · exact nests_walkChildren h _
  · intro e he
    cases he

/-- **How the entities of a source file are nested**, in the languages where all identifiers are made in one way. -/
theorem nests_made_outline {l : Language} (hl : l ∈ languages)
    (hname : l.name ∈ ["python", "javascript", "java", "c_cpp", "csharp", "php", "ruby"]) (read : SyntaxReader)
    (file : Path) (content : Option ByteArray) :
    Nests (Entity.Made file.toString) (l.outline read file content).entities :=
  nests_outline_of_rule
    (fun scope before t => (nested_declared_rule hl hname _ scope before t).mono fun _ he => he.made) read content

/-- The same for a language with blocks that implement a type for itself, and for one without. -/
theorem nests_formed_outline {l : Language} (hl : l ∈ languages) (hname : l.name ∈ ["rust", "ruby"])
    (read : SyntaxReader) (file : Path) (content : Option ByteArray) :
    Nests (Entity.Formed file.toString) (l.outline read file content).entities := by
  by_cases hrust : l.name = "rust"
  · refine nests_outline_of_rule (fun scope before t => ?_) read content
    rw [eq_rust_of_name hl hrust]
    exact (Rust.nested_rule ⟨file.toString, l.dialect (suffixOf file)⟩ scope before t).mono fun _ he => he.formed
  · intro e he
    have hruby : l.name = "ruby" := by simpa [hrust] using hname
    obtain ⟨hmade, hparent⟩ := nests_made_outline hl (by simp [hruby]) read file content e he
    exact ⟨Or.inl hmade, hparent⟩

end Language

end CodeAtlas
