import Mathlib
import CodeAtlas.Language.Registry

/-!
# The names that declarations mention

A declaration keeps the names that it calls and the names that it extends. Each language takes them from texts of
nodes, and an empty text counts as missing, so none of these names is empty. A column of names therefore tells no
names from one empty name.

## Main definitions

* `Entity.Proper`: no name that an entity mentions is empty
* `Language.Found.Proper`: only such entities are found at a node

## Main results

* `Language.proper_of_mem_walk`: what a rule finds at each node holds of all that the walk finds
* `Language.proper_of_mem_outline`: the entities of a source file are proper, in every language
-/

namespace CodeAtlas

/-! ## Texts of nodes -/

namespace Tree

@[simp] theorem text?_ne_empty (t : Tree) : ¬ t.text? = some "" := by
  unfold text?
  split
  · simp
  · next h =>
    intro heq
    rw [Option.some_inj] at heq
    exact h (by rw [heq]; rfl)

@[simp] theorem childText?_ne_empty (kind : String) (t : Tree) : ¬ t.childText? kind = some "" := by
  intro h
  obtain ⟨c, -, hc⟩ := Option.bind_eq_some_iff.mp h
  exact text?_ne_empty c hc

@[simp] theorem empty_not_mem_childTexts (kinds : List String) (t : Tree) : "" ∉ t.childTexts kinds := by
  intro h
  obtain ⟨c, -, hc⟩ := List.mem_filterMap.mp h
  exact text?_ne_empty c hc

@[simp] theorem firstText?_ne_empty (kinds : List String) (t : Tree) : ¬ t.firstText? kinds = some "" :=
  fun h => empty_not_mem_childTexts kinds t (List.mem_of_head? h)

/-- The texts in the first child of a kind. -/
theorem empty_not_mem_clause (clause : String) (kinds : List String) (t : Tree) :
    "" ∉ (match t.child? clause with
      | some c => c.childTexts kinds
      | none => []) := by
  split <;> simp

mutual

theorem empty_not_mem_collect {rule : Option String → Tree → List String} (h : ∀ above t, "" ∉ rule above t)
    (above : Option String) (t : Tree) : "" ∉ t.collect rule above := by
  cases t with
  | node kind text firstRow lastRow children =>
    rw [collect, List.mem_append, not_or]
    exact ⟨h _ _, empty_not_mem_collectList h _ children⟩

theorem empty_not_mem_collectList {rule : Option String → Tree → List String} (h : ∀ above t, "" ∉ rule above t)
    (above : Option String) (ts : List Tree) : "" ∉ collectList rule above ts := by
  cases ts with
  | nil => simp [collectList]
  | cons t ts =>
    rw [collectList, List.mem_append, not_or]
    exact ⟨empty_not_mem_collect h above t, empty_not_mem_collectList h above ts⟩

end

end Tree

/-! ## Calls -/

namespace Calls

theorem empty_not_mem_inBody {rule : Rule} (h : ∀ above t, "" ∉ rule above t) (body : String) (t : Tree) :
    "" ∉ inBody rule body t := by
  unfold inBody
  split
  · rw [List.mem_eraseDups]
    exact Tree.empty_not_mem_collect h _ _
  · simp

@[simp] theorem empty_not_mem_memberName (member name : String) (t : Tree) : "" ∉ memberName member name t := by
  rw [memberName, Option.mem_toList, Option.bind_eq_some_iff]
  rintro ⟨c, -, hc⟩
  exact Tree.childText?_ne_empty name c hc

theorem empty_not_mem_direct (call member name : String) (above : Option String) (t : Tree) :
    "" ∉ direct call member name above t := by
  unfold direct
  split
  · split
    · next n hn =>
      rw [List.mem_singleton]
      rintro rfl
      exact Tree.childText?_ne_empty _ t hn
    · exact empty_not_mem_memberName member name t
  · simp

theorem empty_not_mem_fieldOrPath (above : Option String) (t : Tree) : "" ∉ fieldOrPath above t := by
  unfold fieldOrPath
  split
  · split
    · next n hn =>
      rw [List.mem_singleton]
      rintro rfl
      exact Tree.childText?_ne_empty _ t hn
    · simp
  · simp

theorem empty_not_mem_named (calls : List String) (name : String) (above : Option String) (t : Tree) :
    "" ∉ named calls name above t := by
  unfold named
  split <;> simp

theorem empty_not_mem_invoked (above : Option String) (t : Tree) : "" ∉ invoked above t := by
  unfold invoked
  split
  · rw [List.mem_flatMap]
    rintro ⟨c, -, hc⟩
    split at hc
    · simp at hc
    · split at hc <;> simp at hc
  · simp

theorem empty_not_mem_anyIdentifier (above : Option String) (t : Tree) : "" ∉ anyIdentifier above t := by
  unfold anyIdentifier
  split
  · simp
  · split <;> simp

end Calls

/-! ## What a rule finds -/

/-- An entity that mentions no empty name. -/
def Entity.Proper (e : Entity) : Prop :=
  "" ∉ e.calls ∧ "" ∉ e.bases

namespace Language

/-- Only entities that mention no empty name are found. -/
def Found.Proper (f : Found) : Prop :=
  ∀ e ∈ f.entities, e.Proper

namespace Found

theorem proper_nothing : nothing.Proper := fun e he => by cases he

theorem proper_through (scope : Scope) : (through scope).Proper := fun e he => by cases he

theorem proper_into (kind : String) (scope : Scope) : (into kind scope).Proper := fun e he => by cases he

theorem proper_only {entities : List Entity} (h : ∀ e ∈ entities, e.Proper) : (only entities).Proper := h

theorem proper_container {e : Entity} (h : e.Proper) (kind : String) (level : Level) :
    (container e kind level).Proper := by
  intro e' he
  rw [List.mem_singleton.mp he]
  exact h

end Found

/-- A container whose entity may be missing. -/
theorem Found.proper_optional {e? : Option Entity} (kind : String) (level : Level) :
    (∀ e ∈ e?, e.Proper) → Found.Proper (match e? with
      | some e => .container e kind level
      | none => .nothing) := by
  intro h
  cases e? with
  | some e => exact proper_container (h e rfl) kind level
  | none => exact proper_nothing

theorem Found.proper_toList {e? : Option Entity} (h : ∀ e ∈ e?, e.Proper) : (only e?.toList).Proper :=
  proper_only fun e he => h e (Option.mem_toList.mp he)

/-- A declaration that is an entity as soon as it has a name. -/
theorem forall_mem_named {P : Entity → Prop} {name? : Option String} {entity : String → Entity}
    (h : ∀ name, P (entity name)) : ∀ e ∈ name?.bind fun name => some (entity name), P e := by
  intro e he
  obtain ⟨name, -, hname⟩ := Option.bind_eq_some_iff.mp he
  obtain rfl := Option.some.inj hname
  exact h name

mutual

/-- **What a rule finds at each node holds of all that the walk finds.** -/
theorem proper_of_mem_walk {rule : Rule} (h : ∀ scope before t, (rule scope before t).Proper) (scope : Scope)
    (before : List Tree) (t : Tree) : ∀ e ∈ walk rule scope before t, e.Proper := by
  cases t with
  | node kind text firstRow lastRow children =>
    intro e he
    rw [walk, List.mem_append] at he
    rcases he with he | he
    · exact h _ _ _ e he
    · split at he
      · cases he
      · exact proper_of_mem_walkList h _ _ children e he
      · exact proper_of_mem_walkBody h _ _ children e he

theorem proper_of_mem_walkList {rule : Rule} (h : ∀ scope before t, (rule scope before t).Proper) (scope : Scope)
    (before : List Tree) (ts : List Tree) : ∀ e ∈ walkList rule scope before ts, e.Proper := by
  cases ts with
  | nil =>
    intro e he
    rw [walkList] at he
    cases he
  | cons t ts =>
    intro e he
    rw [walkList, List.mem_append] at he
    rcases he with he | he
    · exact proper_of_mem_walk h scope before t e he
    · exact proper_of_mem_walkList h scope (t :: before) ts e he

theorem proper_of_mem_walkBody {rule : Rule} (h : ∀ scope before t, (rule scope before t).Proper) (scope : Scope)
    (kind : String) (ts : List Tree) : ∀ e ∈ walkBody rule scope kind ts, e.Proper := by
  cases ts with
  | nil =>
    intro e he
    rw [walkBody] at he
    cases he
  | cons t ts =>
    intro e he
    rw [walkBody] at he
    split at he
    · exact proper_of_mem_walkChildren h scope t e he
    · exact proper_of_mem_walkBody h scope kind ts e he

theorem proper_of_mem_walkChildren {rule : Rule} (h : ∀ scope before t, (rule scope before t).Proper)
    (scope : Scope) (t : Tree) : ∀ e ∈ walkChildren rule scope t, e.Proper := by
  cases t with
  | node kind text firstRow lastRow children =>
    intro e he
    rw [walkChildren] at he
    exact proper_of_mem_walkList h scope [] children e he

end

/-! ## The languages -/

theorem Python.proper_rule (file : File) (scope : Scope) (before : List Tree) (t : Tree) :
    (rule file scope before t).Proper := by
  unfold rule
  split
  · refine Found.proper_only fun e he => ?_
    rw [List.mem_singleton.mp he]
    exact ⟨Calls.empty_not_mem_inBody (Calls.empty_not_mem_direct _ _ _) _ t, List.not_mem_nil⟩
  · split
    · exact Found.proper_container ⟨List.not_mem_nil, Tree.empty_not_mem_clause _ _ t⟩ _ _
    · exact Found.proper_nothing

namespace Script

theorem empty_not_mem_calls (t : Tree) : "" ∉ calls t := by
  unfold calls
  split
  · exact Calls.empty_not_mem_inBody (Calls.empty_not_mem_direct _ _ _) _ t
  · rw [List.mem_eraseDups]
    exact Tree.empty_not_mem_collectList (Calls.empty_not_mem_direct _ _ _) _ _

theorem extended?_ne_empty (t : Tree) : extended? t ≠ some "" := by
  intro h
  rcases Option.or_eq_some_iff.mp h with h | ⟨-, h⟩
  · obtain ⟨clause, -, hc⟩ := List.mem_flatMap.mp (List.mem_of_head? h)
    obtain ⟨c, -, hname⟩ := List.mem_filterMap.mp hc
    split at hname
    · exact Tree.firstText?_ne_empty _ c hname
    · split at hname
      · exact Tree.text?_ne_empty c hname
      · cases hname
  · obtain ⟨c, -, hc⟩ := Option.bind_eq_some_iff.mp h
    exact Tree.firstText?_ne_empty _ c hc

theorem empty_not_mem_implemented (t : Tree) : "" ∉ implemented t := by
  simp [implemented]

theorem proper_of_mem_documented (file : File) (scope : Scope) (before : List Tree) (t : Tree) (name? : Option String)
    (kind : EntityKind) (signature : String → String) {calls bases : List String} (hcalls : "" ∉ calls)
    (hbases : "" ∉ bases) : ∀ e ∈ documented file scope before t name? kind signature calls bases, e.Proper := by
  intro e he
  unfold documented at he
  split at he
  · rw [List.mem_singleton.mp he]
    exact ⟨hcalls, hbases⟩
  · cases he

theorem proper_of_mem_variableFunctions (file : File) (scope : Scope) (before : List Tree) (t : Tree) :
    ∀ e ∈ variableFunctions file scope before t, e.Proper := by
  intro e he
  obtain ⟨c, -, hc⟩ := List.mem_filterMap.mp he
  split at hc
  · split at hc
    · obtain rfl := Option.some.inj hc
      exact ⟨empty_not_mem_calls _, List.not_mem_nil⟩
    · cases hc
  · cases hc

theorem proper_fileRule (file : File) (scope : Scope) (before : List Tree) (t : Tree) :
    (fileRule file scope before t).Proper := by
  unfold fileRule
  split
  · exact Found.proper_only (proper_of_mem_documented _ _ _ _ _ _ _ (empty_not_mem_calls t) List.not_mem_nil)
  split
  · exact Found.proper_only (proper_of_mem_variableFunctions _ _ _ t)
  split
  · -- a class
    have hbases : "" ∉ (extended? t).toList ++ implemented t := by
      simp [extended?_ne_empty, empty_not_mem_implemented]
    have hclass := proper_of_mem_documented file scope before t (name? t) .classType (classSignature t)
      List.not_mem_nil hbases
    split
    · next e he =>
      rw [he] at hclass
      exact Found.proper_container (hclass e List.mem_cons_self) _ _
    · exact Found.proper_nothing
  split
  · -- an interface
    have hbases : "" ∉ (t.children.filter (·.kind == "extends_type_clause")).flatMap
        (·.childTexts ["type_identifier"]) := by
      simp
    exact Found.proper_only (proper_of_mem_documented _ _ _ _ _ _ _ List.not_mem_nil hbases)
  split
  · exact Found.proper_only (proper_of_mem_documented _ _ _ _ _ _ _ List.not_mem_nil List.not_mem_nil)
  split
  · exact Found.proper_through scope
  · exact Found.proper_nothing

theorem proper_memberRule (file : File) (scope : Scope) (before : List Tree) (t : Tree) :
    (memberRule file scope before t).Proper := by
  unfold memberRule
  split
  · exact Found.proper_only (proper_of_mem_documented _ _ _ _ _ _ _ (empty_not_mem_calls t) List.not_mem_nil)
  split
  · split
    · exact Found.proper_only (proper_of_mem_documented _ _ _ _ _ _ _ (empty_not_mem_calls _) List.not_mem_nil)
    · exact Found.proper_nothing
  · exact Found.proper_nothing

theorem proper_rule (file : File) (scope : Scope) (before : List Tree) (t : Tree) :
    (rule file scope before t).Proper := by
  cases hl : scope.level with
  | file => simpa only [rule, hl] using proper_fileRule file scope before t
  | members => simpa only [rule, hl] using proper_memberRule file scope before t
  | promises => simpa only [rule, hl] using proper_memberRule file scope before t

end Script

namespace Go

theorem empty_not_mem_calls (t : Tree) : "" ∉ calls t :=
  Calls.empty_not_mem_inBody (Calls.empty_not_mem_direct _ _ _) _ t

theorem proper_of_mem_function (file : File) (before : List Tree) (t : Tree) :
    ∀ e ∈ function file before t, e.Proper := by
  intro e he
  unfold function at he
  split at he
  · rw [List.mem_singleton.mp he]
    exact ⟨empty_not_mem_calls t, List.not_mem_nil⟩
  · cases he

theorem proper_of_mem_method (file : File) (before : List Tree) (t : Tree) : ∀ e ∈ method file before t, e.Proper := by
  intro e he
  unfold method at he
  split at he
  · rw [List.mem_singleton.mp he]
    exact ⟨empty_not_mem_calls t, List.not_mem_nil⟩
  · cases he

theorem proper_of_mem_typeSpec (file : File) (before : List Tree) (t : Tree) :
    ∀ e ∈ typeSpec file before t, e.Proper := by
  intro e he
  unfold typeSpec at he
  split at he
  · rw [List.mem_singleton.mp he]
    exact ⟨List.not_mem_nil, List.not_mem_nil⟩
  · cases he

theorem proper_rule (file : File) (scope : Scope) (before : List Tree) (t : Tree) :
    (rule file scope before t).Proper := by
  unfold rule
  split
  · split
    · exact Found.proper_only (proper_of_mem_function file before t)
    split
    · exact Found.proper_only (proper_of_mem_method file before t)
    split
    · exact Found.proper_through ⟨.members, none⟩
    · exact Found.proper_nothing
  · split
    · exact Found.proper_only (proper_of_mem_typeSpec file before t)
    · exact Found.proper_nothing

end Go

namespace Rust

theorem proper_of_mem_function (file : File) (scope : Scope) (before : List Tree) (t : Tree) :
    ∀ e ∈ function file scope before t, e.Proper := by
  intro e he
  unfold function at he
  split at he
  · rw [List.mem_singleton.mp he]
    exact ⟨Calls.empty_not_mem_inBody Calls.empty_not_mem_fieldOrPath _ t, List.not_mem_nil⟩
  · cases he

theorem proper_of_mem_typeItem (file : File) (before : List Tree) (t : Tree) (kind : EntityKind) :
    ∀ e ∈ typeItem file before t kind, e.Proper :=
  forall_mem_named fun _ => ⟨List.not_mem_nil, List.not_mem_nil⟩

theorem traitFrom_ne_empty {first : Option String} (hfirst : first ≠ some "") (ts : List Tree) :
    traitFrom first ts ≠ some "" := by
  fun_induction traitFrom first ts with
  | case1 first => simp
  | case2 first t ts h ih =>
    refine ih fun heq => ?_
    rcases Option.or_eq_some_iff.mp heq with heq | ⟨-, heq⟩
    · exact hfirst heq
    · simp [Option.some.inj heq] at h
  | case3 first t ts _ _ => exact hfirst
  | case4 first t ts _ _ ih => exact ih hfirst

theorem proper_of_mem_implementation? (file : File) (t : Tree) : ∀ e ∈ implementation? file t, e.Proper := by
  intro e he
  obtain ⟨type, -, he⟩ := Option.bind_eq_some_iff.mp he
  split at he
  · next trait htrait =>
    obtain rfl := Option.some.inj he
    refine ⟨List.not_mem_nil, ?_⟩
    intro h
    obtain rfl := List.mem_singleton.mp h
    exact traitFrom_ne_empty (by simp) _ htrait
  · obtain rfl := Option.some.inj he
    exact ⟨List.not_mem_nil, List.not_mem_nil⟩

theorem proper_fileRule (file : File) (scope : Scope) (before : List Tree) (t : Tree) :
    (fileRule file scope before t).Proper := by
  unfold fileRule
  split
  · exact Found.proper_only (proper_of_mem_function file scope before t)
  split
  · exact Found.proper_toList (proper_of_mem_typeItem file before t _)
  split
  · exact Found.proper_toList (proper_of_mem_typeItem file before t _)
  split
  · exact Found.proper_optional _ _ (proper_of_mem_typeItem file before t _)
  split
  · exact Found.proper_optional _ _ (proper_of_mem_implementation? file t)
  split
  · exact Found.proper_into _ _
  · exact Found.proper_nothing

theorem proper_rule (file : File) (scope : Scope) (before : List Tree) (t : Tree) :
    (rule file scope before t).Proper := by
  unfold rule
  split
  · exact proper_fileRule file scope before t
  · split
    · exact Found.proper_only (proper_of_mem_function file scope before t)
    · exact Found.proper_nothing
  · split
    · exact Found.proper_only (proper_of_mem_function file scope before t)
    · exact Found.proper_nothing

end Rust

namespace Java

theorem empty_not_mem_calls (t : Tree) : "" ∉ calls t :=
  Calls.empty_not_mem_inBody (Calls.empty_not_mem_named _ _) _ t

theorem superclass?_ne_empty (t : Tree) : superclass? t ≠ some "" := by
  intro h
  obtain ⟨c, -, hc⟩ := List.mem_filterMap.mp (List.mem_of_head? h)
  exact Tree.childText?_ne_empty _ c hc

theorem empty_not_mem_clauseTypes (clause : String) (t : Tree) : "" ∉ clauseTypes clause t := by
  intro h
  obtain ⟨c, -, hc⟩ := List.mem_flatMap.mp h
  obtain ⟨item, -, hitem⟩ := List.mem_flatMap.mp hc
  split at hitem
  · simp at hitem
  · split at hitem <;> simp at hitem

theorem proper_of_mem_declared? (file : File) (scope : Scope) (before : List Tree) (t : Tree) (kind : EntityKind)
    (signature : String → String) {calls bases : List String} (hcalls : "" ∉ calls) (hbases : "" ∉ bases) :
    ∀ e ∈ declared? file scope before t kind signature calls bases, e.Proper :=
  forall_mem_named fun _ => ⟨hcalls, hbases⟩

theorem proper_method (file : File) (scope : Scope) (before : List Tree) (t : Tree) :
    (method file scope before t).Proper :=
  Found.proper_toList (proper_of_mem_declared? _ _ _ _ _ _ (empty_not_mem_calls t) List.not_mem_nil)

theorem proper_typeRule (file : File) (scope : Scope) (before : List Tree) (t : Tree) :
    (typeRule file scope before t).Proper := by
  unfold typeRule
  split
  · have hbases : "" ∉ (superclass? t).toList ++ clauseTypes "super_interfaces" t := by
      simp [superclass?_ne_empty, empty_not_mem_clauseTypes]
    exact Found.proper_optional _ _ (proper_of_mem_declared? _ _ _ _ _ _ List.not_mem_nil hbases)
  split
  · exact Found.proper_optional _ _
      (proper_of_mem_declared? _ _ _ _ _ _ List.not_mem_nil (empty_not_mem_clauseTypes _ t))
  split
  · exact Found.proper_toList (proper_of_mem_declared? _ _ _ _ _ _ List.not_mem_nil List.not_mem_nil)
  · exact Found.proper_nothing

theorem proper_rule (file : File) (scope : Scope) (before : List Tree) (t : Tree) :
    (rule file scope before t).Proper := by
  unfold rule
  split
  · split
    · exact Found.proper_toList (proper_of_mem_declared? _ _ _ _ _ _ List.not_mem_nil List.not_mem_nil)
    split
    · exact Found.proper_through scope
    · exact proper_typeRule file scope before t
  · split
    · exact proper_method file scope before t
    split
    · exact Found.proper_toList (proper_of_mem_declared? _ _ _ _ _ _ (empty_not_mem_calls t) List.not_mem_nil)
    · exact proper_typeRule file scope before t
  · split
    · exact proper_method file scope before t
    · exact Found.proper_nothing

end Java

namespace CFamily

theorem proper_of_mem_declared? (file : File) (parent : Option String) (before : List Tree) (t : Tree)
    (name? : Option String) (kind : EntityKind) (signature : String → String) {calls bases : List String}
    (hcalls : "" ∉ calls) (hbases : "" ∉ bases) :
    ∀ e ∈ declared? file parent before t name? kind signature calls bases, e.Proper :=
  forall_mem_named fun _ => ⟨hcalls, hbases⟩

theorem proper_of_mem_function (file : File) (scope : Scope) (before : List Tree) (t : Tree) :
    (Found.only (function file scope before t)).Proper :=
  Found.proper_toList (proper_of_mem_declared? _ _ _ _ _ _ _
    (Calls.empty_not_mem_inBody (Calls.empty_not_mem_direct _ _ _) _ t) List.not_mem_nil)

theorem proper_fileRule (file : File) (scope : Scope) (before : List Tree) (t : Tree) :
    (fileRule file scope before t).Proper := by
  unfold fileRule
  simp only
  split
  · exact proper_of_mem_function file scope before t
  split
  · exact Found.proper_toList (proper_of_mem_declared? _ _ _ _ _ _ _ List.not_mem_nil List.not_mem_nil)
  split
  · exact Found.proper_toList (proper_of_mem_declared? _ _ _ _ _ _ _ List.not_mem_nil List.not_mem_nil)
  split
  · exact Found.proper_toList (proper_of_mem_declared? _ _ _ _ _ _ _ List.not_mem_nil List.not_mem_nil)
  split
  · exact Found.proper_optional _ _
      (proper_of_mem_declared? _ _ _ _ _ _ _ List.not_mem_nil (Tree.empty_not_mem_clause _ _ t))
  split
  · exact Found.proper_into _ _
  split
  · exact Found.proper_through scope
  · exact Found.proper_nothing

theorem proper_rule (file : File) (scope : Scope) (before : List Tree) (t : Tree) :
    (rule file scope before t).Proper := by
  unfold rule
  split
  · exact proper_fileRule file scope before t
  · split
    · exact proper_of_mem_function file scope before t
    · exact Found.proper_nothing

end CFamily

namespace CSharp

theorem empty_not_mem_calls (t : Tree) : "" ∉ calls t :=
  Calls.empty_not_mem_inBody Calls.empty_not_mem_invoked _ t

theorem proper_of_mem_declared? (file : File) (parent : Option String) (before : List Tree) (t : Tree)
    (name? : Option String) (kind : EntityKind) (signature : String → String) {calls bases : List String}
    (hcalls : "" ∉ calls) (hbases : "" ∉ bases) :
    ∀ e ∈ declared? file parent before t name? kind signature calls bases, e.Proper :=
  forall_mem_named fun _ => ⟨hcalls, hbases⟩

theorem proper_container (file : File) (scope : Scope) (before : List Tree) (t : Tree) (kind : EntityKind)
    (keyword : String) : (container file scope before t kind keyword).Proper :=
  Found.proper_optional _ _
    (proper_of_mem_declared? _ _ _ _ _ _ _ List.not_mem_nil (Tree.empty_not_mem_clause _ _ t))

theorem proper_typeRule (file : File) (scope : Scope) (before : List Tree) (t : Tree) :
    (typeRule file scope before t).Proper := by
  unfold typeRule
  split
  · exact proper_container _ _ _ _ _ _
  split
  · exact proper_container _ _ _ _ _ _
  split
  · exact proper_container _ _ _ _ _ _
  · exact Found.proper_nothing

theorem proper_fileRule (file : File) (scope : Scope) (before : List Tree) (t : Tree) :
    (fileRule file scope before t).Proper := by
  unfold fileRule
  split
  · exact Found.proper_toList (proper_of_mem_declared? _ _ _ _ _ _ _ List.not_mem_nil List.not_mem_nil)
  split
  · exact proper_container _ _ _ _ _ _
  split
  · exact Found.proper_into _ _
  split
  · exact Found.proper_through scope
  · exact proper_typeRule file scope before t

theorem proper_memberRule (file : File) (scope : Scope) (before : List Tree) (t : Tree) :
    (memberRule file scope before t).Proper := by
  unfold memberRule
  simp only
  split
  · exact Found.proper_toList (proper_of_mem_declared? _ _ _ _ _ _ _ (empty_not_mem_calls t) List.not_mem_nil)
  split
  · exact Found.proper_toList (proper_of_mem_declared? _ _ _ _ _ _ _ (empty_not_mem_calls t) List.not_mem_nil)
  split
  · exact Found.proper_toList (proper_of_mem_declared? _ _ _ _ _ _ _ List.not_mem_nil List.not_mem_nil)
  · exact proper_typeRule file scope before t

theorem proper_rule (file : File) (scope : Scope) (before : List Tree) (t : Tree) :
    (rule file scope before t).Proper := by
  cases hl : scope.level with
  | file => simpa only [rule, hl] using proper_fileRule file scope before t
  | members => simpa only [rule, hl] using proper_memberRule file scope before t
  | promises => simpa only [rule, hl] using proper_memberRule file scope before t

end CSharp

namespace Php

theorem empty_not_mem_calls (t : Tree) : "" ∉ calls t :=
  Calls.empty_not_mem_inBody (Calls.empty_not_mem_named _ _) _ t

theorem empty_not_mem_clauseNames (clause : String) (t : Tree) : "" ∉ clauseNames clause t :=
  Tree.empty_not_mem_clause _ _ t

theorem base?_ne_empty (t : Tree) : base? t ≠ some "" :=
  fun h => empty_not_mem_clauseNames _ t (List.mem_of_head? h)

theorem proper_of_mem_declared? (file : File) (parent : Option String) (before : List Tree) (t : Tree)
    (kind : String → EntityKind) (signature : String → String) {calls bases : List String} (hcalls : "" ∉ calls)
    (hbases : "" ∉ bases) : ∀ e ∈ declared? file parent before t kind signature calls bases, e.Proper :=
  forall_mem_named fun _ => ⟨hcalls, hbases⟩

theorem proper_fileRule (file : File) (scope : Scope) (before : List Tree) (t : Tree) :
    (fileRule file scope before t).Proper := by
  unfold fileRule
  split
  · exact Found.proper_toList (proper_of_mem_declared? _ _ _ _ _ _ (empty_not_mem_calls t) List.not_mem_nil)
  split
  · -- a class
    have hbases : "" ∉ (base? t).toList ++ implemented t := by
      simp [base?_ne_empty, implemented, empty_not_mem_clauseNames]
    exact Found.proper_optional _ _ (proper_of_mem_declared? _ _ _ _ _ _ List.not_mem_nil hbases)
  split
  · exact Found.proper_optional _ _
      (proper_of_mem_declared? _ _ _ _ _ _ List.not_mem_nil (empty_not_mem_clauseNames _ t))
  split
  · exact Found.proper_optional _ _ (proper_of_mem_declared? _ _ _ _ _ _ List.not_mem_nil List.not_mem_nil)
  split
  · exact Found.proper_toList (proper_of_mem_declared? _ _ _ _ _ _ List.not_mem_nil List.not_mem_nil)
  split
  · exact Found.proper_into _ _
  split
  · exact Found.proper_through scope
  · exact Found.proper_nothing

theorem proper_rule (file : File) (scope : Scope) (before : List Tree) (t : Tree) :
    (rule file scope before t).Proper := by
  unfold rule
  split
  · exact proper_fileRule file scope before t
  · split
    · exact Found.proper_toList (proper_of_mem_declared? _ _ _ _ _ _ (empty_not_mem_calls t) List.not_mem_nil)
    · exact Found.proper_nothing

end Php

namespace Ruby

theorem empty_not_mem_calls (t : Tree) : "" ∉ calls t :=
  Calls.empty_not_mem_inBody Calls.empty_not_mem_anyIdentifier _ t

theorem superclass?_ne_empty (t : Tree) : superclass? t ≠ some "" := by
  intro h
  obtain ⟨c, -, hc⟩ := Option.bind_eq_some_iff.mp h
  exact Tree.firstText?_ne_empty _ c hc

theorem proper_of_mem_declared? (file : File) (scope : Scope) (before : List Tree) (t : Tree) (name? : Option String)
    (kind : EntityKind) (signature : String → String) {calls bases : List String} (hcalls : "" ∉ calls)
    (hbases : "" ∉ bases) : ∀ e ∈ declared? file scope before t name? kind signature calls bases, e.Proper :=
  forall_mem_named fun _ => ⟨hcalls, hbases⟩

theorem proper_rule (file : File) (scope : Scope) (before : List Tree) (t : Tree) :
    (rule file scope before t).Proper := by
  unfold rule
  simp only
  split
  · exact Found.proper_toList (proper_of_mem_declared? _ _ _ _ _ _ _ (empty_not_mem_calls t) List.not_mem_nil)
  split
  · exact Found.proper_toList (proper_of_mem_declared? _ _ _ _ _ _ _ (empty_not_mem_calls t) List.not_mem_nil)
  split
  · have hbases : "" ∉ (superclass? t).toList := by simp [superclass?_ne_empty]
    exact Found.proper_optional _ _ (proper_of_mem_declared? _ _ _ _ _ _ _ List.not_mem_nil hbases)
  split
  · exact Found.proper_optional _ _ (proper_of_mem_declared? _ _ _ _ _ _ _ List.not_mem_nil List.not_mem_nil)
  split
  · exact Found.proper_into _ _
  split
  · exact Found.proper_through scope
  · exact Found.proper_nothing

end Ruby

theorem proper_rule_of_mem_languages {l : Language} (hl : l ∈ languages) (file : File) (scope : Scope)
    (before : List Tree) (t : Tree) : (l.rule file scope before t).Proper := by
  simp only [languages, List.mem_cons, List.not_mem_nil, or_false] at hl
  rcases hl with rfl | rfl | rfl | rfl | rfl | rfl | rfl | rfl | rfl
  · exact Python.proper_rule file scope before t
  · exact Script.proper_rule file scope before t
  · exact Go.proper_rule file scope before t
  · exact Rust.proper_rule file scope before t
  · exact Java.proper_rule file scope before t
  · exact CFamily.proper_rule file scope before t
  · exact CSharp.proper_rule file scope before t
  · exact Php.proper_rule file scope before t
  · exact Ruby.proper_rule file scope before t

/-- **The entities of a source file mention no empty name**, in whatever language the file is. -/
theorem proper_of_mem_outline {l : Language} {file : Path} (hl : forPath? file = some l) (read : SyntaxReader)
    (content : Option ByteArray) : ∀ e ∈ (l.outline read file content).entities, e.Proper := by
  intro e he
  unfold outline at he
  split at he
  · exact proper_of_mem_walkChildren (proper_rule_of_mem_languages (List.mem_of_find?_eq_some hl) _) _ _ e he
  · cases he

end Language

end CodeAtlas
