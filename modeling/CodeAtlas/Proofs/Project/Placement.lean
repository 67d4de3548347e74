import Mathlib
import CodeAtlas.Proofs.Language.Nesting
import CodeAtlas.Proofs.Project.Names

/-!
# Where entities are placed

The identifier of the node of an entity is made anew, for the file as the project knows it. What the node above is
called is read off the parent of the entity, after its last colon. This finds the container as long as the container has
no colon in its name, and is made of its parent and its name. It goes wrong at names with a path in them, and at blocks
that implement something for a type: all methods of blocks without a trait are placed below one and the same
identifier, whatever their type is.

## Main definitions

* `Entity.place`: what follows the file in the identifier of the node of an entity
* `Entity.HasMembers`: an entity is the parent of another one
* `Kept`: no entity is lost or misplaced

## Main results

* `afterLast_id_eq_place_iff`: which containers are found
* `id_eq_of_containers`: if all of them are, nodes have the identifiers of their entities, but for the file
* `kept_outline_iff`: when no entity of a source file is lost or misplaced
-/

namespace CodeAtlas

open Text

namespace Entity

/-- What follows the file in the identifier of the node of an entity. -/
def place (e : Entity) : String :=
  match e.parent with
  | some parent => afterLast ':' parent ++ "." ++ e.name
  | none => e.name

/-- An entity is the parent of another one. -/
def HasMembers (es : List Entity) (e : Entity) : Prop :=
  ∃ e' ∈ es, e'.parent = some e.id

instance (es : List Entity) (e : Entity) : Decidable (e.HasMembers es) :=
  inferInstanceAs (Decidable (∃ e' ∈ es, e'.parent = some e.id))

variable {e : Entity}

theorem place_of_none (h : e.parent = none) : e.place = e.name := by
  rw [place, h]

theorem place_of_some {p : String} (h : e.parent = some p) : e.place = afterLast ':' p ++ "." ++ e.name := by
  rw [place, h]

theorem colon_mem_place_iff : ':' ∈ e.place.toList ↔ ':' ∈ e.name.toList := by
  cases h : e.parent with
  | none => rw [place_of_none h]
  | some p => simp [place_of_some h]

end Entity

/-- **No entity is lost or misplaced**: entities with different identifiers have different nodes, and the node of an
entity hangs below the node of its parent. -/
structure Kept (rel : String) (es : List Entity) : Prop where
  apart : ∀ e₁ ∈ es, ∀ e₂ ∈ es, e₁.id ≠ e₂.id → (entityNode rel e₁).id ≠ (entityNode rel e₂).id
  placed : ∀ e₁ ∈ es, ∀ e₂ ∈ es, e₂.parent = some e₁.id → (entityNode rel e₂).parent = (entityNode rel e₁).id

theorem entityNodeId_eq_place (rel : String) (e : Entity) : entityNodeId rel e = rel ++ ":" ++ e.place := by
  unfold entityNodeId entityParentId
  cases h : e.parent with
  | none => rw [Entity.place_of_none h]
  | some p => simp [Entity.place_of_some h, String.append_assoc]

theorem entityNodeId_inj {rel : String} {e e' : Entity} :
    entityNodeId rel e = entityNodeId rel e' ↔ e.place = e'.place := by
  rw [entityNodeId_eq_place, entityNodeId_eq_place, String.append_right_inj]

/-- The node of an entity hangs below the node of its parent exactly if the identifier of the parent ends in its
place. -/
theorem parent_entityNode_eq_iff {rel : String} {e e' : Entity} (h : e'.parent = some e.id) :
    (entityNode rel e').parent = (entityNode rel e).id ↔ afterLast ':' e.id = e.place := by
  change some (entityParentId rel e') = some (entityNodeId rel e) ↔ _
  rw [Option.some_inj, entityNodeId_eq_place, entityParentId, h, String.append_right_inj]

/-! ## Containers that are found -/

section Containers

variable {path : String} {e : Entity}

theorem Entity.Made.id_of_none (h : e.Made path) (hparent : e.parent = none) : e.id = path ++ ":" ++ e.name := by
  rw [h, hparent]
  rfl

theorem Entity.Made.id_of_some (h : e.Made path) {p : String} (hparent : e.parent = some p) :
    e.id = p ++ "." ++ e.name := by
  rw [h, hparent]
  rfl

theorem Entity.Made.not_inherent (h : e.Made path) : ¬ e.Inherent path := by
  rintro ⟨hparent, hid⟩
  rw [h.id_of_none hparent] at hid
  have hlength := congrArg String.length hid
  simp [makeId, String.length_append] at hlength

/-- The identifier of an entity ends in its place exactly if its name has no colon. -/
theorem afterLast_id_eq_place_iff (h : e.Made path) : afterLast ':' e.id = e.place ↔ ':' ∉ e.name.toList := by
  constructor
  · intro heq
    rw [← Entity.colon_mem_place_iff, ← heq]
    exact not_mem_afterLast ':' e.id
  · intro hname
    cases hparent : e.parent with
    | none =>
      rw [h.id_of_none hparent, afterLast_append_glue rfl, afterLast_of_not_mem hname, Entity.place_of_none hparent]
    | some p =>
      have hend : ':' ∉ ("." ++ e.name).toList := by simpa using hname
      rw [h.id_of_some hparent, String.append_assoc, afterLast_append_of_not_mem hend, ← String.append_assoc,
        Entity.place_of_some hparent]

/-- The identifier of a block without a trait always ends in the same word. -/
theorem afterLast_id_of_inherent (h : e.Inherent path) : afterLast ':' e.id = "impl" := by
  rw [h.2, Entity.makeId, afterLast_append_glue rfl]
  have hend : e.name ++ "::impl" = e.name ++ ":" ++ ":" ++ "impl" := by simp [String.append_assoc]
  rw [hend, afterLast_append_glue rfl, afterLast_of_not_mem (by decide)]

theorem Entity.Inherent.place_eq (h : e.Inherent path) : e.place = e.name :=
  Entity.place_of_none h.1

variable {P : Entity → Prop} {es : List Entity}

/-- **If containers are found, nodes have the identifiers of their entities**, but for the file in front. -/
theorem id_eq_of_containers (hnest : Nests P es)
    (hfound : ∀ e ∈ es, e.HasMembers es → e.Made path ∧ ':' ∉ e.name.toList) (he : e ∈ es) (hmade : e.Made path) :
    e.id = path ++ ":" ++ e.place := by
  -- the identifier of a container is shorter than those of its members
  induction hlength : e.id.length using Nat.strong_induction_on generalizing e with
  | _ n ih =>
    cases hparent : e.parent with
    | none => rw [hmade.id_of_none hparent, Entity.place_of_none hparent]
    | some p =>
      obtain ⟨e', he', rfl⟩ := (hnest e he).2 p hparent
      obtain ⟨hmade', hname'⟩ := hfound e' he' ⟨e, he, hparent⟩
      have hshorter : e'.id.length < n := by
        rw [← hlength, hmade.id_of_some hparent, String.length_append, String.length_append]
        have hdot : ".".length = 1 := rfl
        omega
      have hid := ih _ hshorter he' hmade' rfl
      rw [hmade.id_of_some hparent, Entity.place_of_some hparent, (afterLast_id_eq_place_iff hmade').mpr hname', hid]
      simp [String.append_assoc]

end Containers

/-! ## Files in which nothing is lost -/

section Kept

variable {path rel : String} {es : List Entity} (hnest : Nests (Entity.Formed path) es)

include hnest

theorem made_of_not_inherent {e : Entity} (he : e ∈ es) (hnot : ¬ e.Inherent path) : e.Made path :=
  (hnest e he).1.resolve_right hnot

/-- Containers have to be made of their parent and their name, and have no colon in it. -/
theorem Kept.found (h : Kept rel es) (hword : ∀ e ∈ es, e.Inherent path → e.name ≠ "impl") {e : Entity} (he : e ∈ es)
    (hmembers : e.HasMembers es) : ¬ e.Inherent path ∧ ':' ∉ e.name.toList := by
  obtain ⟨e', he', hparent⟩ := hmembers
  have hend := (parent_entityNode_eq_iff hparent).mp (h.placed e he e' he' hparent)
  have hnot : ¬ e.Inherent path := by
    intro hblock
    rw [afterLast_id_of_inherent hblock, hblock.place_eq] at hend
    exact hword e he hblock hend.symm
  exact ⟨hnot, (afterLast_id_eq_place_iff (made_of_not_inherent hnest he hnot)).mp hend⟩

theorem kept_iff_of_nests (hword : ∀ e ∈ es, e.Inherent path → e.name ≠ "impl") :
    Kept rel es ↔
      (∀ e ∈ es, e.HasMembers es → ¬ e.Inherent path ∧ ':' ∉ e.name.toList) ∧
        ∀ b ∈ es, b.Inherent path → ∀ e ∈ es, ¬ e.Inherent path → e.id ≠ Entity.makeId path none b.name := by
  have hid : (∀ e ∈ es, e.HasMembers es → ¬ e.Inherent path ∧ ':' ∉ e.name.toList) → ∀ e ∈ es, ¬ e.Inherent path →
      e.id = path ++ ":" ++ e.place := by
    intro hfound e he hnot
    refine id_eq_of_containers hnest (fun c hc hmembers => ?_) he (made_of_not_inherent hnest he hnot)
    obtain ⟨hmade, hname⟩ := hfound c hc hmembers
    exact ⟨made_of_not_inherent hnest hc hmade, hname⟩
  constructor
  · intro h
    have hfound := fun e he hmembers => h.found hnest hword (e := e) he hmembers
    refine ⟨hfound, fun b hb hblock e he hnot heq => ?_⟩
    -- a declaration with the identifier of the type has the node of the block
    have hplace : e.place = b.place := by
      rw [hid hfound e he hnot] at heq
      rw [hblock.place_eq]
      exact (String.append_right_inj _).mp heq
    have hne : e.id ≠ b.id := by
      rw [heq, hblock.2]
      intro hsame
      have hlength := congrArg String.length hsame
      simp [Entity.makeId, String.length_append] at hlength
    exact h.apart e he b hb hne (congrArg some (entityNodeId_inj.mpr hplace))
  · rintro ⟨hfound, hfree⟩
    constructor
    · intro e₁ he₁ e₂ he₂ hne hsame
      have hplace : e₁.place = e₂.place := entityNodeId_inj.mp (Option.some.inj hsame)
      -- the place of a block is that of a declaration with the identifier of its type
      have hclash : ∀ b ∈ es, b.Inherent path → ∀ e ∈ es, ¬ e.Inherent path → b.place ≠ e.place := by
        intro b hb hblock e he hnot heq
        refine hfree b hb hblock e he hnot ?_
        rw [hid hfound e he hnot, ← heq, hblock.place_eq]
        rfl
      by_cases h₁ : e₁.Inherent path
      · by_cases h₂ : e₂.Inherent path
        · rw [h₁.place_eq, h₂.place_eq] at hplace
          exact hne (by rw [h₁.2, h₂.2, hplace])
        · exact hclash e₁ he₁ h₁ e₂ he₂ h₂ hplace
      · by_cases h₂ : e₂.Inherent path
        · exact hclash e₂ he₂ h₂ e₁ he₁ h₁ hplace.symm
        · exact hne (by rw [hid hfound e₁ he₁ h₁, hid hfound e₂ he₂ h₂, hplace])
    · intro e₁ he₁ e₂ he₂ hparent
      obtain ⟨hnot, hname⟩ := hfound e₁ he₁ ⟨e₂, he₂, hparent⟩
      rw [parent_entityNode_eq_iff hparent, afterLast_id_eq_place_iff (made_of_not_inherent hnest he₁ hnot)]
      exact hname

end Kept

/-! ## Source files -/

/-- **When no entity of a source file is lost or misplaced.** With blocks that implement a type for itself: exactly if
nothing that has members is such a block or has a colon in its name, and no other declaration has the name of a type
with such a block. Without such blocks: exactly if nothing that has members has a colon in its name. -/
theorem kept_outline_iff {l : Language} (hl : l ∈ languages) (read : SyntaxReader) (file : Path)
    (content : Option ByteArray) (rel : String) :
    let path := file.toString
    let es := (l.outline read file content).entities
    (l.name = "rust" → (∀ e ∈ es, e.Inherent path → e.name ≠ "impl") →
      (Kept rel es ↔
        (∀ e ∈ es, e.HasMembers es → ¬ e.Inherent path ∧ ':' ∉ e.name.toList) ∧
          ∀ b ∈ es, b.Inherent path → ∀ e ∈ es, ¬ e.Inherent path → e.id ≠ Entity.makeId path none b.name)) ∧
      (l.name = "ruby" → (Kept rel es ↔ ∀ e ∈ es, e.HasMembers es → ':' ∉ e.name.toList)) := by
  intro path es
  constructor
  · intro hrust hword
    exact kept_iff_of_nests (Language.nests_formed_outline hl (by simp [hrust]) read file content) hword
  · intro hruby
    have hmade : ∀ e ∈ es, ¬ e.Inherent path := fun e he =>
      (Language.nests_made_outline hl (by simp [hruby]) read file content e he).1.not_inherent
    rw [kept_iff_of_nests (Language.nests_formed_outline hl (by simp [hruby]) read file content)
      fun e he hblock => absurd hblock (hmade e he)]
    constructor
    · intro h e he hmembers
      exact (h.1 e he hmembers).2
    · intro h
      exact ⟨fun e he hmembers => ⟨hmade e he, h e he hmembers⟩, fun b hb hblock => absurd hblock (hmade b hb)⟩

namespace Sample

/-- A node with a name and some members. -/
def container (kind nameKind name bodyKind : String) (members : List Tree) : Tree :=
  .node kind "" 0 0 [.node nameKind name 0 0 [], .node bodyKind "" 0 0 members]

/-- A function. -/
def function (kind name : String) : Tree :=
  .node kind "" 0 0 [.node "identifier" name 0 0 []]

/-- A structure `A`, and blocks for `A` and `B` with a function `new` in each. -/
def blocks : Tree :=
  .node "source_file" "" 0 0
    [.node "struct_item" "" 0 0 [.node "type_identifier" "A" 0 0 []],
      container "impl_item" "type_identifier" "A" "declaration_list" [function "function_item" "new"],
      container "impl_item" "type_identifier" "B" "declaration_list" [function "function_item" "new"]]

/-- A class `A::B` with a method `m`. -/
def qualified : Tree :=
  .node "program" "" 0 0 [container "class" "scope_resolution" "A::B" "body_statement" [function "method" "m"]]

end Sample

/-- The structure and the block of `A` have one node, and so have the two functions, which hang below nothing. A method
of a class with a qualified name does not hang below its class. -/
theorem not_kept_of_block :
    let rust := languages.get ⟨3, by decide⟩
    let ruby := languages.get ⟨8, by decide⟩
    let es := (rust.outline (fun _ _ => Sample.blocks) (.relative ["a.rs"]) (some .empty)).entities
    let es' := (ruby.outline (fun _ _ => Sample.qualified) (.relative ["a.rb"]) (some .empty)).entities
    (∀ e ∈ es, e.Inherent "a.rs" → e.name ≠ "impl") ∧ ¬ Kept "a.rs" es ∧
      es.map (fun e => (e.id, entityNodeId "a.rs" e)) =
        [("a.rs:A", "a.rs:A"), ("a.rs:A::impl", "a.rs:A"), ("a.rs:A::impl.new", "a.rs:impl.new"),
          ("a.rs:B::impl", "a.rs:B"), ("a.rs:B::impl.new", "a.rs:impl.new")] ∧
      ¬ Kept "a.rb" es' ∧
      es'.map (fun e => (entityParentId "a.rb" e, entityNodeId "a.rb" e)) =
        [("a.rb", "a.rb:A::B"), ("a.rb:B", "a.rb:B.m")] := by
  intro rust ruby es es'
  have hword : ∀ e ∈ es, e.Inherent "a.rs" → e.name ≠ "impl" := by decide +kernel
  refine ⟨hword, fun h => ?_, by decide +kernel, fun h => ?_, by decide +kernel⟩
  · have hfound := (((kept_outline_iff (List.get_mem _ _) (fun _ _ => Sample.blocks) (.relative ["a.rs"]) (some .empty)
      "a.rs").1 rfl hword).mp h).1
    exact absurd hfound (by decide +kernel)
  · have hfound := ((kept_outline_iff (List.get_mem _ _) (fun _ _ => Sample.qualified) (.relative ["a.rb"])
      (some .empty) "a.rb").2 rfl).mp h
    exact absurd hfound (by decide +kernel)

end CodeAtlas
