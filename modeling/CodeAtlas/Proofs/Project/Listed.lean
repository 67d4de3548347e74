import Mathlib
import CodeAtlas.Proofs.Project.Growth

/-!
# Lists of children

A node lists the identifiers of the nodes below it. A list dangles if one of its identifiers has no node, or has a node
that names another one as the node above it.

Nodes are put again all the time, and a node that is put again stays in the lists where it was. This does no harm as long
as the text of an identifier tells the node above it: what follows the last dot of a declaration is its name, and what
follows the last slash of a path is its last component. Then whatever is put under an identifier names the same node
above it.

When a file is removed, only the first mention of each of its identifiers is taken from the list where it stands. A
declaration may be listed twice, but then the list goes away as well. A path is listed only once.

## Main definitions

* `Above`: the identifier above an identifier, as its text tells
* `Node.Legible`: a node whose identifier tells the node above it and its file
* `Graph.Regular`: the nodes are legible, no list dangles, and paths are listed once
* `Unfolds`: nodes that are put below nodes that were put before, paths only once

## Main results

* `Above.unique`: there is one identifier above an identifier
* `Graph.Regular.link`: to put a node below the node above it keeps a graph regular
* `Graph.Regular.linkAll`: so does putting nodes one after another
* `Graph.Regular.removeFile`: so does removing a file
-/

namespace CodeAtlas

/-- The text of the path above a path is never empty. -/
theorem Path.parent_toString_ne_empty (s : String) : (ofString s).parent.toString ≠ "" := by
  intro hempty
  rw [toString] at hempty
  split at hempty
  · exact absurd hempty (by decide)
  · next hsome =>
    have hchars := congrArg String.toList hempty
    rw [String.toList_append, String.toList_empty, List.append_eq_nil_iff, Text.toList_joinWith] at hchars
    have hroot : (ofString s).parent.root = "" := String.toList_inj.mp hchars.1
    -- a component is not empty, so there is none
    have hparts : (ofString s).parent.parts = [] := by
      by_contra hne
      obtain ⟨part, rest, hparts⟩ := List.exists_cons_of_ne_nil hne
      have hmem : part ∈ (ofString s).parts.dropLast := by
        change part ∈ (ofString s).parent.parts
        simp [hparts]
      have hpart : part ≠ "" ∧ part ≠ "." := mem_components (List.mem_of_mem_dropLast hmem)
      rw [hparts, List.map_cons] at hchars
      cases rest with
      | nil =>
        rw [List.map_nil, List.intercalate_singleton] at hchars
        exact hpart.1 (String.toList_inj.mp hchars.2)
      | cons next rest => simp [List.intercalate] at hchars
    simp [hroot, hparts] at hsome

/-! ## What the text of an identifier tells -/

/-- The identifier above an identifier, as its text tells. -/
inductive Above (id above : String) : Prop
  /-- A path is below the path without the last component. -/
  | path (hid : ':' ∉ id.toList) (habove : above = (Path.ofString id).parent.toString)
  /-- A declaration at the top of a file is below the file. -/
  | declaration (name : String) (hfile : ':' ∉ above.toList) (hname : '.' ∉ name.toList)
      (hid : id = above ++ ":" ++ name)
  /-- A member is below the declaration before the last dot. -/
  | member (file place name : String) (hfile : ':' ∉ file.toList) (hname : '.' ∉ name.toList)
      (hid : id = above ++ "." ++ name) (habove : above = file ++ ":" ++ place)

namespace Above

variable {id p q : String}

theorem eq_of_path (h : Above id p) (hid : ':' ∉ id.toList) : p = (Path.ofString id).parent.toString := by
  cases h with
  | path _ hp => exact hp
  | declaration name _ _ heq => simp [heq] at hid
  | member file place name _ _ heq hp => simp [heq, hp] at hid

/-- Neither a declaration nor a member is a path, and what is above both belongs to the same file. -/
theorem fileOf_eq (h : Above id p) (hid : ':' ∈ id.toList) : fileOf p = fileOf id := by
  cases h with
  | path hpath => exact absurd hid hpath
  | declaration name hfile _ heq => rw [heq, fileOf_append hfile, fileOf_of_not_mem hfile]
  | member file place name hfile _ heq hp =>
    have hrest : file ++ ":" ++ place ++ "." ++ name = file ++ ":" ++ (place ++ "." ++ name) := by
      simp only [String.append_assoc]
    rw [heq, hp, hrest, fileOf_append hfile, fileOf_append hfile]

/-- A name without a dot is no place followed by a name. -/
theorem declaration_ne_member {file name place name' : String} (hname : '.' ∉ name.toList) :
    file ++ ":" ++ name ≠ file ++ ":" ++ place ++ "." ++ name' := by
  intro heq
  have hchars := congrArg String.toList heq
  simp only [String.toList_append, List.append_assoc, List.append_cancel_left_eq] at hchars
  exact hname (by rw [hchars]; simp)

/-- **There is one identifier above an identifier.** -/
theorem unique (hp : Above id p) (hq : Above id q) : p = q := by
  by_cases hcolon : ':' ∈ id.toList
  · -- both belong to the file that stands before the first colon
    have hfiles : fileOf p = fileOf q := (hp.fileOf_eq hcolon).trans (hq.fileOf_eq hcolon).symm
    cases hp with
    | path hpath => exact absurd hcolon hpath
    | declaration name hfile hname heq =>
      rw [fileOf_of_not_mem hfile] at hfiles
      cases hq with
      | path hpath => exact absurd hcolon hpath
      | declaration name' hfile' => rw [hfiles, fileOf_of_not_mem hfile']
      | member file place name' hfile' _ heq' habove =>
        rw [habove, fileOf_append hfile'] at hfiles
        rw [heq', habove, hfiles] at heq
        exact absurd heq.symm (declaration_ne_member hname)
    | member file place name hfile hname heq habove =>
      cases hq with
      | path hpath => exact absurd hcolon hpath
      | declaration name' hfile' hname' heq' =>
        rw [habove, fileOf_append hfile, fileOf_of_not_mem hfile'] at hfiles
        rw [heq, habove, hfiles] at heq'
        exact absurd heq'.symm (declaration_ne_member hname')
      | member _ _ name' _ hname' heq' =>
        -- both are what stands before the last dot
        have hchars : p.toList ++ '.' :: name.toList = q.toList ++ '.' :: name'.toList := by
          simpa using congrArg String.toList (heq.symm.trans heq')
        exact String.toList_inj.mp (Text.eq_of_append_cons_eq hname hname' hchars).1
  · rw [hp.eq_of_path hcolon, hq.eq_of_path hcolon]

end Above

/-! ## Legible nodes -/

/-- A node whose identifier tells the rest: which node is above it, and to which file it belongs. A directory belongs to
no file, and nothing has to be above the root. -/
structure Node.Legible (id : String) (n : Node) : Prop where
  id_eq : n.id = some id
  above : id = "." ∧ n.parent = none ∨ ∃ p, n.parent = some p ∧ Above id p
  file : ':' ∉ id.toList ∧ n.filePath = none ∨ n.filePath = some (fileOf id)

@[simp] theorem Node.bare_parent (n : Node) : n.bare.parent = n.parent := rfl

namespace Node.Legible

variable {id : String} {n m : Node}

theorem of_bare_eq (h : n.Legible id) (hbare : m.bare = n.bare) : m.Legible id := by
  obtain ⟨hid, habove, hfile⟩ := h
  rw [← Node.bare_id, ← hbare, Node.bare_id] at hid
  rw [← Node.bare_parent, ← hbare, Node.bare_parent] at habove
  rw [← Node.bare_filePath, ← hbare, Node.bare_filePath] at hfile
  exact ⟨hid, habove, hfile⟩

/-- Two nodes that can stand under an identifier name the same node above them, unless it is the root. -/
theorem parent_eq (hn : n.Legible id) (hm : m.Legible id) {p : String} (hparent : m.parent = some p) (hne : p ≠ id) :
    n.parent = some p := by
  have habove : Above id p := by
    rcases hm.above with ⟨-, hnone⟩ | ⟨q, hq, habove⟩
    · rw [hnone] at hparent
      cases hparent
    · rwa [← Option.some.inj (hq.symm.trans hparent)]
  rcases hn.above with ⟨rfl, -⟩ | ⟨q, hq, habove'⟩
  · -- only the root itself is above the root
    exact absurd (habove.eq_of_path (by decide)) hne
  · rw [hq, habove'.unique habove]

/-- A node of a file has the path of the file before the first colon of its identifier. -/
theorem fileOf_eq (h : n.Legible id) {rel : String} (hfile : n.filePath = some rel) : fileOf id = rel := by
  rcases h.file with ⟨-, hnone⟩ | hown
  · rw [hnone] at hfile
    cases hfile
  · exact Option.some.inj (hown.symm.trans hfile)

end Node.Legible

namespace Graph

/-- The nodes are legible, no list of children dangles, and no path is listed twice. -/
structure Regular (g : Graph) : Prop where
  distinct : g.keys.Nodup
  legible : ∀ {k n}, g.find? k = some n → ∃ id, k = some id ∧ n.Legible id
  listed : ∀ {k n c}, g.find? k = some n → c ∈ n.children → ∃ m, g.find? c = some m ∧ m.parent = k
  once : ∀ {k n id}, g.find? k = some n → ':' ∉ id.toList → n.children.count (some id) ≤ 1

theorem regular_empty : empty.Regular where
  distinct := List.nodup_nil
  legible h := by cases h
  listed h := by cases h
  once h := by cases h

namespace Regular

variable {g : Graph} {id : String} {n : Node}

/-- The text of the path above a path is never empty. -/
theorem parent_ne_empty (h : g.Regular) {p : String} (hn : g.find? (some id) = some n) (hid : ':' ∉ id.toList)
    (hparent : n.parent = some p) : p ≠ "" := by
  obtain ⟨_, heq, hlegible⟩ := h.legible hn
  obtain rfl := Option.some.inj heq
  rcases hlegible.above with ⟨-, hnone⟩ | ⟨q, hq, habove⟩
  · cases hnone.symm.trans hparent
  · obtain rfl := Option.some.inj (hq.symm.trans hparent)
    rw [habove.eq_of_path hid]
    exact Path.parent_toString_ne_empty id

/-! ## Putting a node -/

/-- A node that is put, also in place of another one, leaves a graph regular. -/
theorem put (h : g.Regular) (hn : n.Legible id) (hchildren : n.children = []) : (g.put (some id) n).Regular where
  distinct := nodup_keys_put h.distinct _ _
  legible := by
    intro k m hm
    rw [find?_put] at hm
    split at hm
    · next hk => exact ⟨id, hk, Option.some.inj hm ▸ hn⟩
    · exact h.legible hm
  listed := by
    intro k m c hm hc
    rw [find?_put] at hm ⊢
    split at hm
    · rw [← Option.some.inj hm, hchildren] at hc
      cases hc
    · next hk =>
      obtain ⟨old, hold, hparent⟩ := h.listed hm hc
      split
      · next hcid =>
        -- the node that was there is listed under the same key
        rw [hcid] at hold
        obtain ⟨_, rfl, -⟩ := h.legible hm
        obtain ⟨_, hid, hlegible⟩ := h.legible hold
        obtain rfl := Option.some.inj hid
        exact ⟨n, rfl, hn.parent_eq hlegible hparent fun heq => hk (congrArg some heq)⟩
      · exact ⟨old, hold, hparent⟩
  once := by
    intro k m other hm hother
    rw [find?_put] at hm
    split at hm
    · rw [← Option.some.inj hm, hchildren, List.count_nil]
      exact Nat.zero_le 1
    · exact h.once hm hother

/-- A node that is appended to the list of the node above it leaves a graph regular. A path must not be there already. -/
theorem attach (h : g.Regular) {c : NodeId} (hn : g.find? c = some n)
    (hnew : ∀ path m, c = some path → ':' ∉ path.toList → g.find? n.parent = some m → c ∉ m.children) :
    (g.modifyChildren n.parent (· ++ [c])).Regular := by
  -- a node after the change is a node before it, with a longer list if it is the one above
  have hfind : ∀ {k m}, (g.modifyChildren n.parent (· ++ [c])).find? k = some m →
      ∃ old, g.find? k = some old ∧ m.bare = old.bare ∧
        (m.children = old.children ∨ k = n.parent ∧ m.children = old.children ++ [c]) := by
    intro k m hm
    rw [find?_modifyChildren, Option.map_eq_some_iff] at hm
    obtain ⟨old, hold, rfl⟩ := hm
    refine ⟨old, hold, ?_⟩
    split
    · next hk => exact ⟨rfl, Or.inr ⟨hk, rfl⟩⟩
    · exact ⟨rfl, Or.inl rfl⟩
  have hkept : ∀ {k m}, g.find? k = some m →
      ∃ new, (g.modifyChildren n.parent (· ++ [c])).find? k = some new ∧ new.parent = m.parent := by
    intro k m hm
    rw [find?_modifyChildren, hm, Option.map_some]
    refine ⟨_, rfl, ?_⟩
    split <;> rfl
  refine ⟨by rw [keys_modifyChildren]; exact h.distinct, ?_, ?_, ?_⟩
  · intro k m hm
    obtain ⟨old, hold, hbare, -⟩ := hfind hm
    obtain ⟨id, hk, hlegible⟩ := h.legible hold
    exact ⟨id, hk, hlegible.of_bare_eq hbare⟩
  · intro k m child hm hchild
    obtain ⟨old, hold, -, hchildren⟩ := hfind hm
    have hbefore : ∃ below, g.find? child = some below ∧ below.parent = k := by
      rcases hchildren with heq | ⟨hk, heq⟩
      · exact h.listed hold (heq ▸ hchild)
      · rw [heq, List.mem_append, List.mem_singleton] at hchild
        rcases hchild with hchild | rfl
        · exact h.listed hold hchild
        · exact ⟨n, hn, hk.symm⟩
    obtain ⟨below, hbelow, hparent⟩ := hbefore
    obtain ⟨new, hnewNode, hnewParent⟩ := hkept hbelow
    exact ⟨new, hnewNode, hnewParent.trans hparent⟩
  · intro k m path hm hpath
    obtain ⟨old, hold, -, heq | ⟨hk, heq⟩⟩ := hfind hm
    · rw [heq]
      exact h.once hold hpath
    · rw [heq, List.count_append, List.count_singleton]
      by_cases hc : c = some path
      · subst hk
        rw [← hc, List.count_eq_zero.mpr (hnew path old hc hpath hold)]
        simp
      · rw [if_neg (by simpa using hc)]
        exact h.once hold hpath

/-- **To put a node below the node above it leaves a graph regular.** A path must not be listed there already. -/
theorem link (h : g.Regular) (hn : n.Legible id) (hchildren : n.children = [])
    (hnew : ':' ∉ id.toList → ∀ m, g.find? n.parent = some m → some id ∉ m.children) :
    ((g.put (some id) n).modifyChildren n.parent (· ++ [some id])).Regular := by
  refine (h.put hn hchildren).attach (by rw [find?_put, if_pos rfl]) fun path m hpath hcolon hm => ?_
  rw [find?_put] at hm
  split at hm
  · rw [← Option.some.inj hm, hchildren]
    exact List.not_mem_nil
  · obtain rfl := Option.some.inj hpath
    exact hnew hcolon m hm

end Regular

end Graph

/-! ## Putting nodes one after another -/

/-- Nodes that unfold from some keys: a path is none of the keys and was not put before, and the node above it is one of
the keys or was put before. -/
inductive Unfolds : List NodeId → List Node → Prop
  /-- There are no nodes. -/
  | nil {before : List NodeId} : Unfolds before []
  /-- The first node is next, and the others follow it. -/
  | cons {before : List NodeId} {n : Node} {ns : List Node}
      (path : ∀ path, n.id = some path → ':' ∉ path.toList → n.id ∉ before ∧ n.parent ∈ before)
      (rest : Unfolds (n.id :: before) ns) : Unfolds before (n :: ns)

theorem unfolds_append {before : List NodeId} {ms ns : List Node} :
    Unfolds before (ms ++ ns) ↔ Unfolds before ms ∧ Unfolds ((ms.map (·.id)).reverse ++ before) ns := by
  induction ms generalizing before with
  | nil => exact ⟨fun h => ⟨.nil, h⟩, fun h => h.2⟩
  | cons m ms ih =>
    rw [List.map_cons, List.reverse_cons, List.append_assoc, List.singleton_append]
    constructor
    · intro h
      cases h with
      | cons path rest => exact ⟨.cons path (ih.mp rest).1, (ih.mp rest).2⟩
    · rintro ⟨h, hns⟩
      cases h with
      | cons path rest => exact .cons path (ih.mpr ⟨rest, hns⟩)

/-- Declarations unfold from anything. -/
theorem unfolds_of_no_path {before : List NodeId} {ns : List Node}
    (h : ∀ n ∈ ns, ∀ path, n.id = some path → ':' ∈ path.toList) : Unfolds before ns := by
  induction ns generalizing before with
  | nil => exact .nil
  | cons n ns ih =>
    obtain ⟨hn, hns⟩ := List.forall_mem_cons.mp h
    exact .cons (fun path hid hcolon => absurd (hn path hid) hcolon) (ih hns)

namespace Graph.Regular

variable {g : Graph}

/-- **To put nodes that unfold leaves a graph regular**, if the paths that the first nodes list are among them. -/
theorem linkAll (h : g.Regular) {before : List NodeId} {ns : List Node}
    (hclosed : ∀ k ∈ before, ∀ n, g.find? k = some n → ∀ path, ':' ∉ path.toList → some path ∈ n.children →
      some path ∈ before)
    (hns : ∀ n ∈ ns, n.children = [] ∧ ∃ id, n.Legible id) (hunfolds : Unfolds before ns) :
    (g.applyAll (linkEdits ns)).Regular := by
  -- on the nodes that are left; the lists of the nodes that were put stay closed
  induction ns generalizing g before with
  | nil => exact h
  | cons n ns ih =>
    obtain ⟨⟨hchildren, id, hn⟩, hns⟩ := List.forall_mem_cons.mp hns
    obtain _ | ⟨hpath, hunfolds⟩ := hunfolds
    have hid := hn.id_eq
    change (((g.put n.id n).modifyChildren n.parent (· ++ [n.id])).applyAll (linkEdits ns)).Regular
    rw [hid] at hpath hunfolds ⊢
    refine ih (h.link hn hchildren fun hcolon m hm hlisted => ?_) ?_ hns hunfolds
    · obtain ⟨hnew, hparent⟩ := hpath id rfl hcolon
      exact hnew (hclosed _ hparent m hm id hcolon hlisted)
    · intro k hk m hm path hcolon hlisted
      rw [find?_modifyChildren, Option.map_eq_some_iff] at hm
      obtain ⟨old, hold, rfl⟩ := hm
      have hcases : path = id ∨ some path ∈ old.children := by
        split at hlisted
        · rw [List.mem_append, List.mem_singleton] at hlisted
          exact hlisted.symm.imp_left Option.some.inj
        · exact Or.inr hlisted
      rcases hcases with rfl | hlisted
      · exact List.mem_cons_self
      rw [find?_put] at hold
      split at hold
      · rw [← Option.some.inj hold, hchildren] at hlisted
        cases hlisted
      · next hne =>
        have hearlier := (List.mem_cons.mp hk).resolve_left hne
        exact List.mem_cons_of_mem _ (hclosed k hearlier old hold path hcolon hlisted)

end Graph.Regular

/-! ## Removing a file -/

namespace Graph

variable {g : Graph}

/-- Removal only shortens lists, and takes a mention of what is detached. -/
theorem count_children_of_removal {es : List Edit}
    (hes : ∀ e ∈ es, (∃ parent child, e = .detach parent child) ∨ ∃ k, e = .erase k) {k : NodeId} {n : Node}
    (hn : (g.applyAll es).find? k = some n) :
    ∃ old, g.find? k = some old ∧ n.bare = old.bare ∧ ∀ c, n.children.count c ≤ old.children.count c ∧
      (.detach k c ∈ es → n.children.count c ≤ old.children.count c - 1) := by
  induction es generalizing g with
  | nil => exact ⟨n, hn, rfl, fun c => ⟨le_rfl, fun h => (List.not_mem_nil h).elim⟩⟩
  | cons e es ih =>
    obtain ⟨he, hes⟩ := List.forall_mem_cons.mp hes
    obtain ⟨mid, hmid, hbare, hcount⟩ := ih hes hn
    rcases he with ⟨parent, child, rfl⟩ | ⟨j, rfl⟩
    · rw [apply, find?_modifyChildren, Option.map_eq_some_iff] at hmid
      obtain ⟨old, hold, rfl⟩ := hmid
      refine ⟨old, hold, ?_, fun c => ?_⟩
      · rw [hbare]
        split <;> rfl
      · obtain ⟨hle, hless⟩ := hcount c
        by_cases hk : k = parent
        · simp only [if_pos hk, List.count_erase] at hle hless
          refine ⟨by omega, fun hm => ?_⟩
          rcases List.mem_cons.mp hm with heq | hm
          · obtain ⟨-, rfl⟩ := Edit.detach.inj heq
            simpa using hle
          · have := hless hm
            omega
        · simp only [if_neg hk] at hle hless
          refine ⟨hle, fun hm => hless ?_⟩
          rcases List.mem_cons.mp hm with heq | hm
          · exact absurd (Edit.detach.inj heq).1 hk
          · exact hm
    · rw [apply, find?_erase] at hmid
      split at hmid
      · cases hmid
      · refine ⟨mid, hmid, hbare, fun c => ⟨(hcount c).1, fun hm => (hcount c).2 ?_⟩⟩
        simpa using hm

theorem detach_mem_removeFile {rel p : String} {n : Node} (hn : g.find? (some rel) = some n)
    (hparent : n.parent = some p) (hp : p ≠ "") : .detach (some p) (some rel) ∈ g.removeFile rel := by
  have hparent? : n.parent? = some p := by simp [Node.parent?, hparent, hp]
  refine List.mem_flatMap.mpr ⟨(some rel, n), List.mem_filter.mpr ⟨mem_of_find? hn, by simp⟩, ?_⟩
  simp [hparent?]

namespace Regular

/-- Whoever lists a node of a removed file is removed as well, unless it lists the file itself. -/
theorem eq_file_of_listed (h : g.Regular) {rel : String} {k c : NodeId} {n m : Node} (hn : g.find? k = some n)
    (hm : g.find? c = some m) (hparent : m.parent = k) (hkept : ¬(n.filePath = some rel ∨ k = some rel))
    (hgone : m.filePath = some rel ∨ c = some rel) : c = some rel := by
  refine hgone.elim (fun hfile => ?_) id
  obtain ⟨p, rfl, hp⟩ := h.legible hn
  obtain ⟨id, rfl, hid⟩ := h.legible hm
  have hrel := hid.fileOf_eq hfile
  by_cases hcolon : ':' ∈ id.toList
  · -- a declaration and what is above it belong to the same file
    have habove : Above id p := by
      rcases hid.above with ⟨-, hnone⟩ | ⟨q, hq, habove⟩
      · cases hnone.symm.trans hparent
      · rwa [← Option.some.inj (hq.symm.trans hparent)]
    have hfiles := (habove.fileOf_eq hcolon).trans hrel
    refine absurd ?_ hkept
    rcases hp.file with ⟨hpath, -⟩ | hown
    · exact Or.inr (by rw [← hfiles, fileOf_of_not_mem hpath])
    · exact Or.inl (hown.trans (congrArg some hfiles))
  · rw [← hrel, fileOf_of_not_mem hcolon]

/-- **To remove a file leaves a graph regular.** -/
theorem removeFile (h : g.Regular) {rel : String} (hrel : ':' ∉ rel.toList) :
    (g.applyAll (g.removeFile rel)).Regular := by
  -- what is there afterwards was there before, does not belong to the file, and has a shorter list
  have hafter : ∀ {k n}, (g.applyAll (g.removeFile rel)).find? k = some n → ∃ old, g.find? k = some old ∧
      n.bare = old.bare ∧ ¬(old.filePath = some rel ∨ k = some rel) ∧
      ∀ c, n.children.count c ≤ old.children.count c ∧
        (.detach k c ∈ g.removeFile rel → n.children.count c ≤ old.children.count c - 1) := by
    intro k n hn
    obtain ⟨old, hold, hbare, hcount⟩ := count_children_of_removal (fun e he => mem_removeFile he) hn
    have hkept := bare?_removeFile h.distinct rel k
    rw [bare?, hn, bare?, hold, Option.map_some, Option.map_some, eq_comm, Option.filter_eq_some_iff] at hkept
    have hfile : n.filePath = old.filePath := by rw [← Node.bare_filePath n, hbare, Node.bare_filePath]
    exact ⟨old, hold, hbare, hfile ▸ by simpa using hkept.2, hcount⟩
  have hkeys : ((g.applyAll (g.removeFile rel)).Each fun _ _ => True) :=
    Each.applyAll (fun _ _ => trivial) ⟨h.distinct, fun _ => trivial⟩ fun _ _ _ => trivial
  refine ⟨hkeys.distinct, ?_, ?_, ?_⟩
  · intro k n hn
    obtain ⟨old, hold, hbare, -⟩ := hafter hn
    obtain ⟨id, hk, hlegible⟩ := h.legible hold
    exact ⟨id, hk, hlegible.of_bare_eq hbare⟩
  · intro k n c hn hc
    obtain ⟨old, hold, -, hkept, hcount⟩ := hafter hn
    have hmore := List.count_pos_iff.mpr hc
    obtain ⟨m, hm, hparent⟩ := h.listed hold (List.count_pos_iff.mp (hmore.trans_le (hcount c).1))
    -- had the child been removed, it would be the file, and its only mention would be gone
    have hstays : ¬(m.filePath = some rel ∨ c = some rel) := by
      intro hgone
      obtain rfl := h.eq_file_of_listed hold hm hparent hkept hgone
      have honce := h.once hold hrel
      obtain ⟨p, rfl, -⟩ := h.legible hold
      have hdetach := detach_mem_removeFile hm hparent (h.parent_ne_empty hm hrel hparent)
      have := (hcount _).2 hdetach
      omega
    have hbare := bare?_removeFile h.distinct rel c
    rw [bare?, bare?, hm, Option.map_some, Option.filter_some, if_pos (by simpa using hstays)] at hbare
    obtain ⟨new, hnew, heq⟩ := Option.map_eq_some_iff.mp hbare
    refine ⟨new, hnew, ?_⟩
    rw [← hparent, ← Node.bare_parent new, heq, Node.bare_parent]
  · intro k n path hn hpath
    obtain ⟨old, hold, -, -, hcount⟩ := hafter hn
    exact (hcount _).1.trans (h.once hold hpath)

end Regular

end Graph

end CodeAtlas
