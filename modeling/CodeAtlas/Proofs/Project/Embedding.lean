import Mathlib
import CodeAtlas.Proofs.Project.Placement
import CodeAtlas.Proofs.Project.Scanned

/-!
# The entities of a file in the graph

A file becomes a node with the nodes of its entities below it. An entity names its file by the path that was read, and
its node by the path within the project. Apart from this the node has the identifier of the entity, and hangs below the
node of its parent, to any depth, as long as no name has a colon. Paths may have colons.

An identifier joins names by dots. If a name has a dot itself, two entities can have one identifier and different
parents: a class `B` in a class `A`, and a class `A.B`. They share a node, and only one of them has its own
parent there.

## Main definitions

* `Moved`: an identifier with another path in front
* `Graph.Embeds`: a graph has a node for an identifier and a parent, both with another path in front

## Main results

* `parent_eq_of_id_eq`: without dots in names, entities with one identifier have one parent
* `embeds_outline`: the nodes of the entities of a source file
-/

namespace CodeAtlas

open Text

/-- An identifier with another path in front. -/
def Moved (path rel : String) (id id' : String) : Prop :=
  ∃ rest, id = path ++ rest ∧ id' = rel ++ rest

/-- The identifier of a parent with another path in front; above an entity without a parent is the file. -/
def MovedParent (path rel : String) : Option String → NodeId → Prop
  | some parent, k => ∃ id, Moved path rel parent id ∧ k = some id
  | none, k => k = some rel

/-- A graph has a node for an identifier and a parent, both with another path in front, and a node for the parent. -/
def Graph.Embeds (g : Graph) (path rel : String) (id : String) (parent : Option String) : Prop :=
  ∃ id' n, Moved path rel id id' ∧ g.find? (some id') = some n ∧ n.id = some id' ∧
    MovedParent path rel parent n.parent ∧ g.contains n.parent = true

theorem moved_append_iff {path rel rest id : String} : Moved path rel (path ++ rest) id ↔ id = rel ++ rest := by
  constructor
  · rintro ⟨rest', heq, rfl⟩
    rw [(String.append_right_inj path).mp heq]
  · rintro rfl
    exact ⟨rest, rfl, rfl⟩

/-! ## The nodes of a file -/

theorem keeps_of_mem_linkEdits {ns : List Node} : ∀ e ∈ linkEdits ns, e.keeps = true := by
  intro e he
  obtain ⟨n, -, hn⟩ := List.mem_flatMap.mp he
  simp only [List.mem_cons, List.not_mem_nil, or_false] at hn
  rcases hn with rfl | rfl <;> rfl

/-- Under the identifier of a node that was put is a node that was put with this identifier. -/
theorem Graph.exists_find?_linkEdits (g : Graph) {ns : List Node} {m : Node} (hm : m ∈ ns) :
    ∃ n ∈ ns, n.id = m.id ∧
      ∃ n', (g.applyAll (linkEdits ns)).find? m.id = some n' ∧ n'.id = n.id ∧ n'.parent = n.parent := by
  have hput : .put m.id m ∈ linkEdits ns := List.mem_flatMap.mpr ⟨m, hm, List.mem_cons_self⟩
  obtain ⟨n, hlast⟩ := Option.isSome_iff_exists.mp (Edit.lastPut_isSome_of_mem hput)
  obtain ⟨hn, hid⟩ := put_mem_linkEdits (Edit.mem_of_lastPut hlast)
  have hbare : (g.applyAll (linkEdits ns)).bare? m.id = some n.bare := by
    rw [bare?_applyAll keeps_of_mem_linkEdits, hlast]
    rfl
  obtain ⟨n', hn', heq⟩ := bare?_eq_some_iff.mp hbare
  have hsame : n'.bare.id = n.bare.id ∧ n'.bare.parent = n.bare.parent := by rw [heq]; exact ⟨rfl, rfl⟩
  exact ⟨n, hn, hid.symm, n', hn', hsame⟩

theorem Graph.contains_linkEdits (g : Graph) {ns : List Node} {m : Node} (hm : m ∈ ns) :
    (g.applyAll (linkEdits ns)).contains m.id = true := by
  obtain ⟨-, -, -, n', hn', -⟩ := g.exists_find?_linkEdits hm
  rw [contains, hn']
  rfl

section File

/- The entities of a file, which are made of their parents and their names. -/
variable {path : String} {o : Outline} (hnest : Nests (Entity.Made path) o.entities)
  (hcolon : ∀ e ∈ o.entities, ':' ∉ e.name.toList)

include hnest hcolon

theorem id_eq_of_colonless {e : Entity} (he : e ∈ o.entities) : e.id = path ++ ":" ++ e.place :=
  id_eq_of_containers hnest (fun c hc _ => ⟨(hnest c hc).1, hcolon c hc⟩) he (hnest e he).1

/-- **Without dots in names, entities with one identifier have one parent.** -/
theorem parent_eq_of_id_eq (hdot : ∀ e ∈ o.entities, '.' ∉ e.name.toList) {e e' : Entity} (he : e ∈ o.entities)
    (he' : e' ∈ o.entities) (hid : e.id = e'.id) : e.parent = e'.parent := by
  -- an entity with a parent has a dot after the identifier of the parent, and another one has none there
  have hmixed : ∀ {e e' : Entity}, e ∈ o.entities → e' ∈ o.entities → e.parent = none → ∀ p, e'.parent = some p →
      e.id ≠ e'.id := by
    intro e e' he he' hnone p hp heq
    rw [id_eq_of_colonless hnest hcolon he, id_eq_of_colonless hnest hcolon he', String.append_right_inj,
      Entity.place_of_none hnone, Entity.place_of_some hp] at heq
    exact hdot e he (by simp [heq])
  cases hparent : e.parent with
  | none =>
    cases hparent' : e'.parent with
    | none => rfl
    | some p' => exact absurd hid (hmixed he he' hparent p' hparent')
  | some p =>
    cases hparent' : e'.parent with
    | none => exact absurd hid.symm (hmixed he' he hparent' p hparent)
    | some p' =>
      rw [(hnest e he).1.id_of_some hparent, (hnest e' he').1.id_of_some hparent'] at hid
      have hchars : p.toList ++ '.' :: e.name.toList = p'.toList ++ '.' :: e'.name.toList := by
        simpa using congrArg String.toList hid
      rw [String.ext (eq_of_append_cons_eq (hdot e he) (hdot e' he') hchars).1]

theorem moved_entityNodeId (rel : String) {e : Entity} (he : e ∈ o.entities) :
    Moved path rel e.id (entityNodeId rel e) := by
  rw [id_eq_of_colonless hnest hcolon he, String.append_assoc, moved_append_iff, entityNodeId_eq_place,
    String.append_assoc]

variable (g : Graph) (file : Path) (rel : String) (parent : NodeId) (l : Language)

omit hnest hcolon in
theorem entityNode_mem_fileNodes {e : Entity} (he : e ∈ o.entities) :
    entityNode rel e ∈ fileNodes file rel parent l o :=
  List.mem_cons_of_mem _ (List.mem_map_of_mem he)

/-- The node above an entity has the identifier of its parent with another path in front, and is there. -/
theorem movedParent_entityNode {e : Entity} (he : e ∈ o.entities) :
    MovedParent path rel e.parent (entityNode rel e).parent ∧
      ∃ n ∈ fileNodes file rel parent l o, n.id = (entityNode rel e).parent := by
  cases hparent : e.parent with
  | none =>
    have habove : (entityNode rel e).parent = some rel := by
      change some (entityParentId rel e) = some rel
      rw [entityParentId, hparent]
    exact ⟨habove, _, List.mem_cons_self, habove.symm⟩
  | some p =>
    obtain ⟨c, hc, rfl⟩ := (hnest e he).2 p hparent
    have hend := (afterLast_id_eq_place_iff (hnest c hc).1).mpr (hcolon c hc)
    have habove : (entityNode rel e).parent = (entityNode rel c).id := (parent_entityNode_eq_iff hparent).mpr hend
    rw [habove]
    exact ⟨⟨_, moved_entityNodeId hnest hcolon rel hc, rfl⟩, _, entityNode_mem_fileNodes file rel parent l hc, rfl⟩

/-- The node of an entity is that of an entity with its identifier. -/
theorem exists_embeds {e : Entity} (he : e ∈ o.entities) : ∃ e' ∈ o.entities, e'.id = e.id ∧
    (g.applyAll (fileEdits file rel parent l o)).Embeds path rel e.id e'.parent := by
  rw [fileEdits_eq_linkEdits]
  obtain ⟨n, hn, hid, n', hn', hid', hparent⟩ :=
    g.exists_find?_linkEdits (entityNode_mem_fileNodes file rel parent l he)
  -- the node is not that of the file, whose identifier is shorter
  obtain ⟨e', he', rfl⟩ : ∃ e' ∈ o.entities, entityNode rel e' = n := by
    rcases List.mem_cons.mp hn with rfl | hn
    · exact absurd (Option.some.inj hid).symm (entityNodeId_ne rel e)
    · exact List.mem_map.mp hn
  have hplace : e'.place = e.place := entityNodeId_inj.mp (Option.some.inj hid)
  have hsame : e'.id = e.id := by
    rw [id_eq_of_colonless hnest hcolon he', id_eq_of_colonless hnest hcolon he, hplace]
  obtain ⟨hmoved, above, habove, hid_above⟩ := movedParent_entityNode hnest hcolon file rel parent l he'
  refine ⟨e', he', hsame, entityNodeId rel e, n', moved_entityNodeId hnest hcolon rel he, hn', hid'.trans hid,
    hparent ▸ hmoved, ?_⟩
  rw [hparent, ← hid_above]
  exact g.contains_linkEdits habove

end File

/-- **The nodes of the entities of a source file**, if no name has a colon. There is a node for the identifier of every
entity, with the path in the project in front. It hangs below the node of the parent of an entity with that identifier.
If no name has a dot, this is the parent of the entity itself. -/
theorem embeds_outline {l : Language} (hl : l ∈ languages)
    (hname : l.name ∈ ["python", "javascript", "java", "c_cpp", "csharp", "php"]) (read : SyntaxReader) (file : Path)
    (content : Option ByteArray) (hcolon : ∀ e ∈ (l.outline read file content).entities, ':' ∉ e.name.toList)
    (g : Graph) (rel : String) (parent : NodeId) :
    let o := l.outline read file content
    let g' := g.applyAll (fileEdits file rel parent l o)
    (∀ e ∈ o.entities, ∃ e' ∈ o.entities, e'.id = e.id ∧ g'.Embeds file.toString rel e.id e'.parent) ∧
      ((∀ e ∈ o.entities, '.' ∉ e.name.toList) → ∀ e ∈ o.entities, g'.Embeds file.toString rel e.id e.parent) := by
  intro o g'
  have hnest : Nests (Entity.Made file.toString) o.entities :=
    Language.nests_made_outline hl (List.mem_append_left ["ruby"] hname) read file content
  have hembeds := fun e he => exists_embeds hnest hcolon g file rel parent l (e := e) he
  refine ⟨hembeds, fun hdot e he => ?_⟩
  obtain ⟨e', he', hid, hnode⟩ := hembeds e he
  rwa [parent_eq_of_id_eq hnest hcolon hdot he' he hid] at hnode

namespace Sample

/-- A class with some members. -/
def classOf (name : String) (members : List Tree) : Tree :=
  container "class_definition" "identifier" name "block" members

/-- A class `A` with a class `B` in it, which has a method `m`. -/
def nested : Tree :=
  .node "module" "" 0 0 [classOf "A" [classOf "B" [function "function_definition" "m"]]]

/-- A class `A` with a class `B` in it, and a class `A.B`. -/
def dotted : Tree :=
  .node "module" "" 0 0 [classOf "A" [classOf "B" []], classOf "A.B" []]

end Sample

/-- The path that is read may have colons. -/
theorem embeds_nested :
    let python := languages.get ⟨0, by decide⟩
    let file : Path := ⟨"/", ["disk:1", "a.py"]⟩
    let o := python.outline (fun _ _ => Sample.nested) file (some .empty)
    let g := Graph.empty.applyAll (fileEdits file "a.py" Graph.rootKey python o)
    o.entities.map (·.id) = ["/disk:1/a.py:A", "/disk:1/a.py:A.B", "/disk:1/a.py:A.B.m"] ∧
      (∀ e ∈ o.entities, ':' ∉ e.name.toList) ∧ (∀ e ∈ o.entities, '.' ∉ e.name.toList) ∧
      ∀ e ∈ o.entities, g.Embeds "/disk:1/a.py" "a.py" e.id e.parent := by
  intro python file o g
  have hcolon : ∀ e ∈ o.entities, ':' ∉ e.name.toList := by decide +kernel
  have hdot : ∀ e ∈ o.entities, '.' ∉ e.name.toList := by decide +kernel
  refine ⟨by decide +kernel, hcolon, hdot, ?_⟩
  exact (embeds_outline (List.get_mem _ _) (by decide +kernel) (fun _ _ => Sample.nested) file (some .empty) hcolon
    Graph.empty "a.py" Graph.rootKey).2 hdot

/-- The class `B` in `A` has no node of its own, if there is a class `A.B`: the node of their identifier hangs below the
file. -/
theorem not_embeds_dotted :
    let python := languages.get ⟨0, by decide⟩
    let file : Path := ⟨"/", ["project", "a.py"]⟩
    let o := python.outline (fun _ _ => Sample.dotted) file (some .empty)
    let g := Graph.empty.applyAll (fileEdits file "a.py" Graph.rootKey python o)
    (∀ e ∈ o.entities, ':' ∉ e.name.toList) ∧
      ∃ e ∈ o.entities, ¬ g.Embeds "/project/a.py" "a.py" e.id e.parent := by
  intro python file o g
  have hentity : ∃ e ∈ o.entities, e.id = "/project/a.py" ++ ":A.B" ∧ e.parent = some ("/project/a.py" ++ ":A") := by
    decide +kernel
  have hnode : (g.find? (some "a.py:A.B")).map Node.parent = some (some "a.py") := by decide +kernel
  obtain ⟨e, he, hid, hparent⟩ := hentity
  refine ⟨by decide +kernel, e, he, ?_⟩
  rintro ⟨id, n, hmoved, hfind, -, habove, -⟩
  rw [hid, moved_append_iff] at hmoved
  subst hmoved
  rw [hparent] at habove
  obtain ⟨above, hmoved, hn⟩ := habove
  rw [moved_append_iff] at hmoved
  subst hmoved
  have hfound : (g.find? (some "a.py:A.B")).map Node.parent = some (some "a.py:A") := by
    rw [show g.find? (some "a.py:A.B") = some n from hfind, Option.map_some, hn]
    rfl
  exact absurd (hnode.symm.trans hfound) (by decide)

end CodeAtlas
