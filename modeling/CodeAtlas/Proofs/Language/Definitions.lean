import Mathlib
import CodeAtlas.Proofs.Language.Callees
import CodeAtlas.Proofs.Language.Spans

/-!
# Which definitions are extracted

In a tree of Python, definitions of functions and classes stand at the top of the file and in the bodies of classes, bare
or wrapped together with their decorators. The entities of a file are those of the bare definitions: one for each of them,
in the order of the source, below the class around it. A definition with decorators is left out, and so is everything
inside a class with decorators. So all definitions are extracted exactly if none of them has decorators.

A definition is told by its address in the tree, since nodes at different places may be equal. The order of the source
is the lexicographic order of addresses.

## Main definitions

* `Tree.descend`: the node at an address
* `Python.Bare`, `Python.Decorated`, `Python.Hosts`: where definitions stand
* `Python.Extracts`: some entities are those of all definitions, bare ones only or all of them
* `located`: the entities of a walk, with the addresses of their nodes

## Main results

* `Python.part_locatedBelow`: what a walk finds are bare definitions, in the order of the source
* `Python.mem_located_of_hosts`: a walk finds all bare definitions
* `Python.definitions_extracted_iff`: when all definitions are extracted
-/

namespace CodeAtlas

/-! ## Addresses -/

/-- The way down from a tree to one of its nodes: at each step the number of a child. -/
abbrev Address := List ℕ

/-- The node at an address. -/
def Tree.descend : Address → Tree → Option Tree
  | [], t => some t
  | i :: rest, t => t.children[i]?.bind (descend rest)

theorem Tree.descend_append (a b : Address) (t : Tree) : t.descend (a ++ b) = (t.descend a).bind (Tree.descend b) := by
  induction a generalizing t with
  | nil => rfl
  | cons i rest ih =>
    rw [List.cons_append, descend, descend, Option.bind_assoc]
    exact congrArg _ (funext ih)

theorem Tree.descend_child {root t : Tree} {a : Address} (h : root.descend a = some t) (i : ℕ) :
    root.descend (a ++ [i]) = t.children[i]? := by
  rw [descend_append, h, Option.bind_some, descend]
  cases t.children[i]? <;> rfl

theorem Address.append_lt_append (a : Address) {i j : ℕ} (h : i < j) (b c : Address) : a ++ i :: b < a ++ j :: c :=
  List.Lex.append_left _ (List.Lex.rel h) a

theorem Address.lt_append_cons (a : Address) (i : ℕ) (b : Address) : a < a ++ i :: b := by
  have hlt : a ++ [] < a ++ i :: b := List.Lex.append_left _ List.Lex.nil a
  rwa [List.append_nil] at hlt

/-- Where an entity was found: at which node, and inside the declaration at which node. -/
structure Site where
  /-- The address of the declaration around it. -/
  enclosing : Option Address
  /-- The address of its node. -/
  address : Address

namespace Language

/-! ## Entities and their addresses -/

mutual

/-- The entities in the tree at an address, each with its site. -/
def locatedIn (rule : Rule) (scope : Scope) (enclosing : Option Address) (address : Address) (before : List Tree) :
    Tree → List (Site × Entity)
  | .node kind text firstRow lastRow children =>
    let found := rule scope before (.node kind text firstRow lastRow children)
    found.entities.map (Prod.mk ⟨enclosing, address⟩) ++
      match found.inside with
      | .nowhere => []
      | .children inner => locatedAmong rule inner enclosing address 0 [] children
      | .body bodyKind inner => locatedInBody rule inner (some address) address 0 bodyKind children

/-- The entities in the children of a host from some number on, each with its site. -/
def locatedAmong (rule : Rule) (scope : Scope) (enclosing : Option Address) (host : Address) (index : ℕ)
    (before : List Tree) : List Tree → List (Site × Entity)
  | [] => []
  | t :: ts => locatedIn rule scope enclosing (host ++ [index]) before t ++
      locatedAmong rule scope enclosing host (index + 1) (t :: before) ts

/-- The entities in the children of the first of some nodes that has a kind, each with its site. -/
def locatedInBody (rule : Rule) (scope : Scope) (enclosing : Option Address) (host : Address) (index : ℕ)
    (kind : String) : List Tree → List (Site × Entity)
  | [] => []
  | t :: ts =>
    if t.kind == kind then locatedBelow rule scope enclosing (host ++ [index]) t
    else locatedInBody rule scope enclosing host (index + 1) kind ts

/-- The entities in the children of the node at an address, each with its site. -/
def locatedBelow (rule : Rule) (scope : Scope) (enclosing : Option Address) (host : Address) :
    Tree → List (Site × Entity)
  | .node _ _ _ _ children => locatedAmong rule scope enclosing host 0 [] children

end

section

variable (rule : Rule)

mutual

theorem map_snd_locatedIn (scope : Scope) (enclosing : Option Address) (address : Address) (before : List Tree)
    (t : Tree) : (locatedIn rule scope enclosing address before t).map Prod.snd = walk rule scope before t := by
  cases t with
  | node kind text firstRow lastRow children =>
    rw [locatedIn, walk, List.map_append, List.map_map]
    refine congrArg₂ _ (List.map_id _) ?_
    cases (rule scope before (.node kind text firstRow lastRow children)).inside with
    | nowhere => rfl
    | children inner => exact map_snd_locatedAmong inner enclosing address 0 [] children
    | body bodyKind inner => exact map_snd_locatedInBody inner (some address) address 0 bodyKind children

theorem map_snd_locatedAmong (scope : Scope) (enclosing : Option Address) (host : Address) (index : ℕ)
    (before ts : List Tree) :
    (locatedAmong rule scope enclosing host index before ts).map Prod.snd = walkList rule scope before ts := by
  cases ts with
  | nil => rw [locatedAmong, walkList, List.map_nil]
  | cons t ts =>
    rw [locatedAmong, walkList, List.map_append, map_snd_locatedIn scope enclosing (host ++ [index]) before t,
      map_snd_locatedAmong scope enclosing host (index + 1) (t :: before) ts]

theorem map_snd_locatedInBody (scope : Scope) (enclosing : Option Address) (host : Address) (index : ℕ)
    (kind : String) (ts : List Tree) :
    (locatedInBody rule scope enclosing host index kind ts).map Prod.snd = walkBody rule scope kind ts := by
  cases ts with
  | nil => rw [locatedInBody, walkBody, List.map_nil]
  | cons t ts =>
    rw [locatedInBody, walkBody]
    split
    · exact map_snd_locatedBelow scope enclosing (host ++ [index]) t
    · exact map_snd_locatedInBody scope enclosing host (index + 1) kind ts

theorem map_snd_locatedBelow (scope : Scope) (enclosing : Option Address) (host : Address) (t : Tree) :
    (locatedBelow rule scope enclosing host t).map Prod.snd = walkChildren rule scope t := by
  cases t with
  | node kind text firstRow lastRow children =>
    rw [locatedBelow, walkChildren]
    exact map_snd_locatedAmong scope enclosing host 0 [] children

end

/-- The children of a host are walked one by one, each with the nodes before it. -/
theorem locatedIn_subset_locatedAmong (scope : Scope) (enclosing : Option Address) (host : Address) {ts : List Tree}
    {i : ℕ} {t : Tree} (ht : ts[i]? = some t) (index : ℕ) (before : List Tree) :
    locatedIn rule scope enclosing (host ++ [index + i]) ((ts.take i).reverse ++ before) t ⊆
      locatedAmong rule scope enclosing host index before ts := by
  induction ts generalizing i index before with
  | nil => cases ht
  | cons first rest ih =>
    rw [locatedAmong]
    cases i with
    | zero =>
      obtain rfl := Option.some.inj ht
      exact List.subset_append_left _ _
    | succ i =>
      have hsub := ih ht (index + 1) (first :: before)
      rw [Nat.add_right_comm, List.append_cons (rest.take i).reverse, ← List.reverse_cons] at hsub
      exact List.Subset.trans hsub (List.subset_append_right _ _)

theorem locatedIn_subset_locatedBelow (scope : Scope) (enclosing : Option Address) (host : Address) {t c : Tree} {i : ℕ}
    (hc : t.children[i]? = some c) :
    locatedIn rule scope enclosing (host ++ [i]) (t.children.take i).reverse c ⊆
      locatedBelow rule scope enclosing host t := by
  cases t with
  | node kind text firstRow lastRow children =>
    have hsub := locatedIn_subset_locatedAmong rule scope enclosing host hc 0 []
    rw [Nat.zero_add, List.append_nil] at hsub
    rw [locatedBelow]
    exact hsub

/-- The body is the first child of its kind. -/
theorem locatedInBody_eq (scope : Scope) (enclosing : Option Address) (host : Address) {kind : String} {ts : List Tree}
    {i : ℕ} (hi : ts.findIdx? (·.kind == kind) = some i) (index : ℕ) :
    ∃ t, ts[i]? = some t ∧ locatedInBody rule scope enclosing host index kind ts =
      locatedBelow rule scope enclosing (host ++ [index + i]) t := by
  induction ts generalizing i index with
  | nil => cases hi
  | cons first rest ih =>
    rw [List.findIdx?_cons] at hi
    rw [locatedInBody]
    split at hi
    · next hkind =>
      obtain rfl := Option.some.inj hi
      exact ⟨first, rfl, if_pos hkind⟩
    · next hkind =>
      obtain ⟨i, hrest, rfl⟩ := Option.map_eq_some_iff.mp hi
      obtain ⟨t, ht, heq⟩ := ih hrest (index + 1)
      rw [Nat.add_right_comm] at heq
      exact ⟨t, ht, (if_neg hkind).trans heq⟩

end

namespace Python

/-! ## Where definitions stand -/

/-- A definition of a function or of a class. -/
def IsDefinition (t : Tree) : Prop :=
  t.kind = "function_definition" ∨ t.kind = "class_definition"

/-- A definition that is a child of the node at `host`. -/
def Bare (root : Tree) (host address : Address) (t : Tree) : Prop :=
  ∃ i, address = host ++ [i] ∧ root.descend address = some t ∧ IsDefinition t

/-- A definition inside a child of the node at `host` that wraps it together with its decorators. -/
def Decorated (root : Tree) (host address : Address) (t : Tree) : Prop :=
  ∃ i j wrapper, address = host ++ [i, j] ∧ root.descend (host ++ [i]) = some wrapper ∧
    wrapper.kind = "decorated_definition" ∧ root.descend address = some t ∧ IsDefinition t

/-- A definition that is bare or, if `wrapped` says so, one with decorators. -/
def Stands (wrapped : Bool) (root : Tree) (host address : Address) (t : Tree) : Prop :=
  Bare root host address t ∨ wrapped = true ∧ Decorated root host address t

/-- The nodes among whose children definitions stand, with the classes around them: the root, and the body of each class
that stands there itself. -/
inductive Hosts (wrapped : Bool) (root : Tree) : Option Address → Address → Prop
  | top : Hosts wrapped root none []
  | body {outer : Option Address} {host address : Address} {t : Tree} {i : ℕ} (hhost : Hosts wrapped root outer host)
      (hstands : Stands wrapped root host address t) (hkind : t.kind = "class_definition")
      (hbody : t.children.findIdx? (·.kind == "block") = some i) : Hosts wrapped root (some address) (address ++ [i])

/-- A definition stands at a site. -/
def Defined (wrapped : Bool) (root : Tree) (site : Site) : Prop :=
  ∃ host t, Hosts wrapped root site.enclosing host ∧ Stands wrapped root host site.address t

/-- No definition has decorators. -/
def Undecorated (root : Tree) : Prop :=
  ∀ enclosing host address t, Hosts false root enclosing host → ¬ Decorated root host address t

variable {wrapped : Bool} {root : Tree}

theorem Stands.descend_eq {host address : Address} {t : Tree} (h : Stands wrapped root host address t) :
    root.descend address = some t ∧ IsDefinition t := by
  rcases h with ⟨i, -, h⟩ | ⟨-, i, j, wrapper, -, -, -, h⟩
  · exact h
  · exact h

theorem Stands.bare {host address : Address} {t : Tree} (h : Stands false root host address t) :
    Bare root host address t :=
  h.resolve_right fun hdecorated => Bool.false_ne_true hdecorated.1

theorem Hosts.of_bare {enclosing : Option Address} {host : Address} (h : Hosts false root enclosing host) :
    Hosts true root enclosing host := by
  induction h with
  | top => exact .top
  | body _ hstands hkind hbody ih => exact .body ih (Or.inl hstands.bare) hkind hbody

/-- A class has one body. -/
theorem Hosts.unique {enclosing : Option Address} {host host' : Address} (h : Hosts wrapped root enclosing host)
    (h' : Hosts wrapped root enclosing host') : host = host' := by
  cases h with
  | top =>
    cases h'
    rfl
  | body _ hstands _ hbody =>
    cases h' with
    | body _ hstands' _ hbody' =>
      obtain rfl := Option.some.inj (hstands.descend_eq.1.symm.trans hstands'.descend_eq.1)
      rw [Option.some.inj (hbody.symm.trans hbody')]

/-- **Every definition is a bare one** exactly if no definition has decorators. -/
theorem undecorated_iff : Undecorated root ↔ ∀ site, Defined true root site → Defined false root site := by
  constructor
  · intro h
    have hhosts : ∀ {enclosing : Option Address} {host : Address}, Hosts true root enclosing host →
        Hosts false root enclosing host := by
      intro enclosing host hhost
      induction hhost with
      | top => exact .top
      | body _ hstands hkind hbody ih =>
        exact .body ih (Or.inl (hstands.resolve_right fun hdecorated => h _ _ _ _ ih hdecorated.2)) hkind hbody
    rintro site ⟨host, t, hhost, hstands⟩
    have hhost' := hhosts hhost
    exact ⟨host, t, hhost', Or.inl (hstands.resolve_right fun hdecorated => h _ _ _ _ hhost' hdecorated.2)⟩
  · intro h enclosing host address t hhost hdecorated
    obtain ⟨host', t', hhost', hstands'⟩ := h ⟨enclosing, address⟩ ⟨host, t, hhost.of_bare, Or.inr ⟨rfl, hdecorated⟩⟩
    obtain rfl := hhost.unique hhost'
    -- the same address would be one and two steps below the host
    obtain ⟨i, hone, -⟩ := hstands'.bare
    obtain ⟨i', j, wrapper, htwo, -⟩ := hdecorated
    have hlength := congrArg List.length (hone.symm.trans htwo)
    simp at hlength

/-! ## What it means to extract definitions -/

/-- An entity describes the definition at a node. -/
structure Describes (path : String) (t : Tree) (e : Entity) : Prop where
  name : e.name = t.childTextD "identifier" ""
  kind : e.kind = if t.kind = "class_definition" then .classType else Entity.functionKind e.parent
  id : e.id = Entity.makeId path e.parent e.name
  path : e.path = path
  lines : e.firstLine = t.firstRow + 1 ∧ e.lastLine = t.lastRow + 1

/-- Entities that are found at all definitions, at each of them once, in the order of the source, and that hang from the
entity of the class around them. -/
structure Lists (wrapped : Bool) (path : String) (root : Tree) (found : List (Site × Entity)) : Prop where
  sites : ∀ site, site ∈ found.map (·.1) ↔ Defined wrapped root site
  ordered : found.Pairwise fun x y => x.1.address < y.1.address
  describes : ∀ x ∈ found, ∃ t, root.descend x.1.address = some t ∧ Describes path t x.2
  parents : ∀ x ∈ found, x.1.enclosing = none ∧ x.2.parent = none ∨
    ∃ y ∈ found, x.1.enclosing = some y.1.address ∧ x.2.parent = some y.2.id

/-- Some entities are those of all definitions. -/
def Extracts (wrapped : Bool) (path : String) (root : Tree) (entities : List Entity) : Prop :=
  ∃ found, found.map (·.2) = entities ∧ Lists wrapped path root found

theorem Lists.nodup {path : String} {found : List (Site × Entity)} (h : Lists wrapped path root found) :
    (found.map (·.1)).Nodup := by
  refine List.pairwise_map.mpr (h.ordered.imp fun {x y} hlt heq => ?_)
  rw [heq] at hlt
  exact lt_irrefl _ hlt

/-- If the bare definitions are extracted, then all definitions are extracted exactly if none has decorators. -/
theorem extracts_wrapped_iff {path : String} {entities : List Entity} (h : Extracts false path root entities) :
    Extracts true path root entities ↔ Undecorated root := by
  obtain ⟨found, hentities, hbare⟩ := h
  have hmore : ∀ site, Defined false root site → Defined true root site := by
    rintro site ⟨host, t, hhost, hstands⟩
    exact ⟨host, t, hhost.of_bare, Or.inl hstands.bare⟩
  rw [undecorated_iff]
  constructor
  · rintro ⟨found', hentities', hall⟩ site hsite
    -- both lists are as long as the entities, and the sites of the one are among those of the other
    have hlength : (found'.map (·.1)).length ≤ (found.map (·.1)).length := by
      have hsame := congrArg List.length (hentities'.trans hentities.symm)
      simp only [List.length_map] at hsame ⊢
      exact hsame.le
    have hsub : found.map (·.1) ⊆ found'.map (·.1) := fun site hmem =>
      (hall.sites site).mpr (hmore site ((hbare.sites site).mp hmem))
    have hperm := (hbare.nodup.subperm hsub).perm_of_length_le hlength
    exact (hbare.sites site).mp (hperm.mem_iff.mpr ((hall.sites site).mpr hsite))
  · intro hdefined
    refine ⟨found, hentities, ?_, hbare.ordered, hbare.describes, hbare.parents⟩
    exact fun site => (hbare.sites site).trans ⟨hmore site, hdefined site⟩

/-! ## What a walk finds -/

/-- **What the rule of Python finds at a node**: the entity of a function, or the entity of a class and more in its body,
or nothing. -/
theorem rule_cases (file : File) (scope : Scope) (before : List Tree) (t : Tree) :
    (∃ e, Describes file.path t e ∧ e.parent = scope.parent ∧
      (t.kind = "function_definition" ∧ rule file scope before t = .only [e] ∨
        t.kind = "class_definition" ∧ rule file scope before t = .container e "block" .members)) ∨
      ¬ IsDefinition t ∧ rule file scope before t = .nothing := by
  by_cases hfunction : t.kind = "function_definition"
  · refine Or.inl ⟨_, ⟨rfl, ?_, rfl, rfl, rfl, rfl⟩, rfl, Or.inl ⟨hfunction, if_pos (beq_iff_eq.mpr hfunction)⟩⟩
    rw [if_neg (by rw [hfunction]; decide)]
    rfl
  have hnot : ¬ (t.kind == "function_definition") = true := mt beq_iff_eq.mp hfunction
  by_cases hclass : t.kind = "class_definition"
  · refine Or.inl ⟨_, ⟨rfl, ?_, rfl, rfl, rfl, rfl⟩, rfl,
      Or.inr ⟨hclass, (if_neg hnot).trans (if_pos (beq_iff_eq.mpr hclass))⟩⟩
    rw [if_pos hclass]
    rfl
  · exact Or.inr ⟨not_or.mpr ⟨hfunction, hclass⟩, (if_neg hnot).trans (if_neg (mt beq_iff_eq.mp hclass))⟩

/-- What a walk finds in the tree at an address. -/
theorem locatedIn_cases (file : File) (scope : Scope) (enclosing : Option Address) (address : Address)
    (before : List Tree) (t : Tree) :
    (∃ e, Describes file.path t e ∧ e.parent = scope.parent ∧
      (t.kind = "function_definition" ∧
          locatedIn (rule file) scope enclosing address before t = [(⟨enclosing, address⟩, e)] ∨
        t.kind = "class_definition" ∧ locatedIn (rule file) scope enclosing address before t =
          (⟨enclosing, address⟩, e) ::
            locatedInBody (rule file) ⟨.members, some e.id⟩ (some address) address 0 "block" t.children)) ∨
      ¬ IsDefinition t ∧ locatedIn (rule file) scope enclosing address before t = [] := by
  have hcases := rule_cases file scope before t
  cases t with
  | node kind text firstRow lastRow children =>
    rw [locatedIn]
    obtain ⟨e, hdescribes, hparent, ⟨hkind, hrule⟩ | ⟨hkind, hrule⟩⟩ | ⟨hother, hrule⟩ := hcases
    · refine Or.inl ⟨e, hdescribes, hparent, Or.inl ⟨hkind, ?_⟩⟩
      rw [hrule]
      rfl
    · refine Or.inl ⟨e, hdescribes, hparent, Or.inr ⟨hkind, ?_⟩⟩
      rw [hrule]
      rfl
    · refine Or.inr ⟨hother, ?_⟩
      rw [hrule]
      rfl

/-- A part of what a walk finds, in the children of a host from `low` to `high`: bare definitions in the order of the
source. They hang from the declaration around the host, or from another one of the part. -/
structure Part (path : String) (root : Tree) (enclosing : Option Address) (parent : Option String) (host : Address)
    (low high : ℕ) (found : List (Site × Entity)) : Prop where
  standing : ∀ x ∈ found, ∃ host t, Hosts false root x.1.enclosing host ∧ Bare root host x.1.address t ∧
    Describes path t x.2
  ordered : found.Pairwise fun x y => x.1.address < y.1.address
  hangs : ∀ x ∈ found, x.1.enclosing = enclosing ∧ x.2.parent = parent ∨
    ∃ y ∈ found, x.1.enclosing = some y.1.address ∧ x.2.parent = some y.2.id
  below : ∀ x ∈ found, ∃ i rest, low ≤ i ∧ i < high ∧ x.1.address = host ++ i :: rest

namespace Part

variable {path : String} {enclosing : Option Address} {parent : Option String} {host : Address} {low mid high : ℕ}
  {found found' : List (Site × Entity)}

theorem nil : Part path root enclosing parent host low high [] where
  standing _ hx := absurd hx List.not_mem_nil
  ordered := List.Pairwise.nil
  hangs _ hx := absurd hx List.not_mem_nil
  below _ hx := absurd hx List.not_mem_nil

theorem widen (h : Part path root enclosing parent host low high found) {low' high' : ℕ} (hlow : low' ≤ low)
    (hhigh : high ≤ high') : Part path root enclosing parent host low' high' found where
  standing := h.standing
  ordered := h.ordered
  hangs := h.hangs
  below x hx := by
    obtain ⟨i, rest, hli, hih, haddress⟩ := h.below x hx
    exact ⟨i, rest, hlow.trans hli, hih.trans_le hhigh, haddress⟩

/-- What is found below a child of a host is found below the host. -/
theorem lift {i : ℕ} (h : Part path root enclosing parent (host ++ [i]) low high found) :
    Part path root enclosing parent host i (i + 1) found where
  standing := h.standing
  ordered := h.ordered
  hangs := h.hangs
  below x hx := by
    obtain ⟨j, rest, -, -, haddress⟩ := h.below x hx
    exact ⟨i, j :: rest, le_rfl, Nat.lt_succ_self i, by rw [haddress, List.append_assoc, List.singleton_append]⟩

/-- Two parts, one after the other. -/
theorem append (h : Part path root enclosing parent host low mid found)
    (h' : Part path root enclosing parent host mid high found') (hlow : low ≤ mid) (hhigh : mid ≤ high) :
    Part path root enclosing parent host low high (found ++ found') where
  standing x hx := (List.mem_append.mp hx).elim (h.standing x) (h'.standing x)
  ordered := by
    refine List.pairwise_append.mpr ⟨h.ordered, h'.ordered, fun x hx y hy => ?_⟩
    obtain ⟨i, rest, -, hi, haddress⟩ := h.below x hx
    obtain ⟨j, rest', hj, -, haddress'⟩ := h'.below y hy
    rw [haddress, haddress']
    exact Address.append_lt_append host (hi.trans_le hj) rest rest'
  hangs x hx := by
    rcases List.mem_append.mp hx with hx | hx
    · exact (h.hangs x hx).imp_right fun ⟨y, hy, hsame⟩ => ⟨y, List.mem_append_left _ hy, hsame⟩
    · exact (h'.hangs x hx).imp_right fun ⟨y, hy, hsame⟩ => ⟨y, List.mem_append_right _ hy, hsame⟩
  below x hx := (List.mem_append.mp hx).elim ((h.widen le_rfl hhigh).below x) ((h'.widen hlow le_rfl).below x)

/-- A definition, and what is found inside it. -/
theorem cons {i : ℕ} {t : Tree} {e : Entity} (hhost : Hosts false root enclosing host)
    (hbare : Bare root host (host ++ [i]) t) (hdescribes : Describes path t e) (hparent : e.parent = parent)
    (h : Part path root (some (host ++ [i])) (some e.id) (host ++ [i]) low high found) :
    Part path root enclosing parent host i (i + 1) ((⟨enclosing, host ++ [i]⟩, e) :: found) where
  standing x hx := by
    rcases List.mem_cons.mp hx with rfl | hx
    · exact ⟨host, t, hhost, hbare, hdescribes⟩
    · exact h.standing x hx
  ordered := by
    refine List.pairwise_cons.mpr ⟨fun x hx => ?_, h.ordered⟩
    obtain ⟨j, rest, -, -, haddress⟩ := h.below x hx
    rw [haddress]
    exact Address.lt_append_cons _ j rest
  hangs x hx := by
    rcases List.mem_cons.mp hx with rfl | hx
    · exact Or.inl ⟨rfl, hparent⟩
    · refine Or.inr ?_
      rcases h.hangs x hx with ⟨henclosing, hparent⟩ | ⟨y, hy, hsame⟩
      · exact ⟨_, List.mem_cons_self, henclosing, hparent⟩
      · exact ⟨y, List.mem_cons_of_mem _ hy, hsame⟩
  below x hx := by
    rcases List.mem_cons.mp hx with rfl | hx
    · exact ⟨i, [], le_rfl, Nat.lt_succ_self i, rfl⟩
    · exact h.lift.below x hx

end Part

section

variable {file : File}

mutual

/-- **What a walk finds is a part**, in a tree, in the children of a host, and in the body of a class. -/
theorem part_locatedIn (scope : Scope) {enclosing : Option Address} {host : Address}
    (hhost : Hosts false root enclosing host) (i : ℕ) (before : List Tree) (t : Tree)
    (ht : root.descend (host ++ [i]) = some t) :
    Part file.path root enclosing scope.parent host i (i + 1)
      (locatedIn (rule file) scope enclosing (host ++ [i]) before t) := by
  have hcases := locatedIn_cases file scope enclosing (host ++ [i]) before t
  cases t with
  | node kind text firstRow lastRow children =>
    obtain ⟨e, hdescribes, hparent, ⟨hkind, heq⟩ | ⟨hkind, heq⟩⟩ | ⟨-, heq⟩ := hcases
    · rw [heq]
      have hnone : Part file.path root (some (host ++ [i])) (some e.id) (host ++ [i]) 0 0 [] := .nil
      exact hnone.cons hhost ⟨i, rfl, ht, Or.inl hkind⟩ hdescribes hparent
    · rw [heq]
      have hbare : Bare root host (host ++ [i]) (.node kind text firstRow lastRow children) :=
        ⟨i, rfl, ht, Or.inr hkind⟩
      refine (part_locatedInBody ⟨.members, some e.id⟩ 0 "block" children ?_ ?_).cons hhost hbare hdescribes hparent
      · intro j hj
        rw [Nat.zero_add]
        exact .body hhost (Or.inl hbare) hkind hj
      · intro j c hj
        rw [Nat.zero_add, Tree.descend_child ht]
        exact hj
    · rw [heq]
      exact .nil

theorem part_locatedAmong (scope : Scope) {enclosing : Option Address} {host : Address}
    (hhost : Hosts false root enclosing host) (index : ℕ) (before ts : List Tree)
    (hts : ∀ (i : ℕ) (t : Tree), ts[i]? = some t → root.descend (host ++ [index + i]) = some t) :
    Part file.path root enclosing scope.parent host index (index + ts.length)
      (locatedAmong (rule file) scope enclosing host index before ts) := by
  cases ts with
  | nil =>
    rw [locatedAmong]
    exact .nil
  | cons t ts =>
    rw [locatedAmong]
    have hrest := part_locatedAmong scope hhost (index + 1) (t :: before) ts fun i t' ht' => by
      rw [Nat.add_right_comm]
      exact hts (i + 1) t' ht'
    refine (part_locatedIn scope hhost index before t (hts 0 t rfl)).append (hrest.widen le_rfl ?_) (Nat.le_succ _) ?_
    · simp only [List.length_cons]
      omega
    · simp only [List.length_cons]
      omega

theorem part_locatedInBody (scope : Scope) {enclosing : Option Address} {host : Address} (index : ℕ) (kind : String)
    (ts : List Tree)
    (hhosts : ∀ i, ts.findIdx? (·.kind == kind) = some i → Hosts false root enclosing (host ++ [index + i]))
    (hts : ∀ (i : ℕ) (t : Tree), ts[i]? = some t → root.descend (host ++ [index + i]) = some t) :
    Part file.path root enclosing scope.parent host index (index + ts.length)
      (locatedInBody (rule file) scope enclosing host index kind ts) := by
  cases ts with
  | nil =>
    rw [locatedInBody]
    exact .nil
  | cons t ts =>
    rw [locatedInBody]
    split
    · next hkind =>
      have hhost := hhosts 0 (by rw [List.findIdx?_cons, if_pos hkind])
      refine (part_locatedBelow scope hhost t (hts 0 t rfl)).lift.widen le_rfl ?_
      simp only [List.length_cons]
      omega
    · next hkind =>
      have hrest := part_locatedInBody scope (index + 1) kind ts
        (fun i hi => by
          rw [Nat.add_right_comm]
          exact hhosts (i + 1) (by rw [List.findIdx?_cons, if_neg hkind, hi, Option.map_some]))
        (fun i t' ht' => by
          rw [Nat.add_right_comm]
          exact hts (i + 1) t' ht')
      refine hrest.widen (Nat.le_succ _) ?_
      simp only [List.length_cons]
      omega

theorem part_locatedBelow (scope : Scope) {enclosing : Option Address} {host : Address}
    (hhost : Hosts false root enclosing host) (t : Tree) (ht : root.descend host = some t) :
    Part file.path root enclosing scope.parent host 0 (0 + t.children.length)
      (locatedBelow (rule file) scope enclosing host t) := by
  cases t with
  | node kind text firstRow lastRow children =>
    rw [locatedBelow]
    refine part_locatedAmong scope hhost 0 [] children fun i c hi => ?_
    rw [Nat.zero_add, Tree.descend_child ht]
    exact hi

end

/-- **A walk comes to every host** of definitions that are not wrapped. -/
theorem exists_locatedBelow_subset (file : File) {enclosing : Option Address} {host : Address}
    (hhost : Hosts false root enclosing host) :
    ∃ scope t, root.descend host = some t ∧
      locatedBelow (rule file) scope enclosing host t ⊆ locatedBelow (rule file) .top none [] root := by
  induction hhost with
  | top => exact ⟨.top, root, rfl, List.Subset.refl _⟩
  | @body outer host address t i _ hstands hkind hbody ih =>
    obtain ⟨scope, above, habove, hsub⟩ := ih
    obtain ⟨hnode, -⟩ := hstands.descend_eq
    obtain ⟨k, rfl, -⟩ := hstands.bare
    have hchild := locatedIn_subset_locatedBelow (rule file) scope outer host
      ((Tree.descend_child habove k).symm.trans hnode)
    -- at the class the walk goes on in its body
    obtain ⟨e, -, -, ⟨hfunction, -⟩ | ⟨-, heq⟩⟩ | ⟨hother, -⟩ :=
      locatedIn_cases file scope outer (host ++ [k]) (above.children.take k).reverse t
    · rw [hkind] at hfunction
      exact absurd hfunction (by decide)
    · obtain ⟨body, hbody, hbelow⟩ :=
        locatedInBody_eq (rule file) ⟨.members, some e.id⟩ (some (host ++ [k])) (host ++ [k]) hbody 0
      rw [Nat.zero_add] at hbelow
      rw [heq, hbelow] at hchild
      refine ⟨⟨.members, some e.id⟩, body, (Tree.descend_child hnode i).trans hbody, fun x hx => ?_⟩
      exact hsub (hchild (List.mem_cons_of_mem _ hx))
    · exact absurd (Or.inr hkind) hother

/-- **A walk finds all definitions that are not wrapped.** -/
theorem mem_located_of_defined (file : File) {site : Site} (h : Defined false root site) :
    site ∈ (locatedBelow (rule file) .top none [] root).map (·.1) := by
  obtain ⟨host, t, hhost, hstands⟩ := h
  obtain ⟨scope, above, habove, hsub⟩ := exists_locatedBelow_subset file hhost
  obtain ⟨hnode, hdefinition⟩ := hstands.descend_eq
  obtain ⟨i, haddress, -⟩ := hstands.bare
  rw [haddress, Tree.descend_child habove] at hnode
  have hchild := locatedIn_subset_locatedBelow (rule file) scope site.enclosing host hnode
  have hfound : ∃ e,
      (site, e) ∈ locatedIn (rule file) scope site.enclosing (host ++ [i]) (above.children.take i).reverse t := by
    have hsite : site = ⟨site.enclosing, host ++ [i]⟩ := by rw [← haddress]
    obtain ⟨e, -, -, ⟨-, heq⟩ | ⟨-, heq⟩⟩ | ⟨hother, -⟩ :=
      locatedIn_cases file scope site.enclosing (host ++ [i]) (above.children.take i).reverse t
    · exact ⟨e, by rw [heq, ← hsite]; exact List.mem_cons_self⟩
    · exact ⟨e, by rw [heq, ← hsite]; exact List.mem_cons_self⟩
    · exact absurd hdefinition hother
  obtain ⟨e, he⟩ := hfound
  exact List.mem_map.mpr ⟨_, hsub (hchild he), rfl⟩

/-- **A walk lists the definitions that are not wrapped.** -/
theorem lists_located (file : File) (root : Tree) :
    Lists false file.path root (locatedBelow (rule file) .top none [] root) := by
  have hpart : Part file.path root none none [] 0 (0 + root.children.length)
      (locatedBelow (rule file) .top none [] root) := part_locatedBelow .top .top root rfl
  refine ⟨fun site => ⟨fun hsite => ?_, mem_located_of_defined file⟩, hpart.ordered, fun x hx => ?_, hpart.hangs⟩
  · obtain ⟨x, hx, rfl⟩ := List.mem_map.mp hsite
    obtain ⟨host, t, hhost, hbare, -⟩ := hpart.standing x hx
    exact ⟨host, t, hhost, Or.inl hbare⟩
  · obtain ⟨host, t, -, ⟨i, -, hnode, -⟩, hdescribes⟩ := hpart.standing x hx
    exact ⟨t, hnode, hdescribes⟩

end

/-- **Which definitions are extracted** from a source file of Python, whatever the tree is that its text is read as. The
entities are those of the definitions that are not wrapped: one for each of them at the top of the file and in the bodies
of such classes, in the order of the source, with the class around it as parent. They are the entities of all definitions
exactly if none of these definitions has decorators. -/
theorem definitions_extracted_iff {l : Language} (hl : l ∈ languages) (hname : l.name = "python") (read : SyntaxReader)
    (path : Path) {content : ByteArray} {text : String} (htext : String.fromUTF8? content = some text) :
    let root := read (l.grammar (suffixOf path)) text
    let entities := (l.outline read path (some content)).entities
    Extracts false path.toString root entities ∧ (Extracts true path.toString root entities ↔ Undecorated root) := by
  intro root entities
  have hpython : languages.head (List.cons_ne_nil _ _) ∈ languages := List.mem_cons_self
  have hrule : l.rule = rule := rule_eq_of_name hl hpython hname
  have hentities : entities = walkChildren (rule ⟨path.toString, l.dialect (suffixOf path)⟩) .top root := by
    simp only [entities, outline, Option.bind_some, htext, outlineText, Language.entities, hrule]
    rfl
  have hbare : Extracts false path.toString root entities := by
    refine ⟨_, ?_, lists_located ⟨path.toString, l.dialect (suffixOf path)⟩ root⟩
    rw [hentities]
    exact map_snd_locatedBelow _ _ _ _ _
  exact ⟨hbare, extracts_wrapped_iff hbare⟩

end Python

end Language

namespace Sample

/-- A function with a decorator. -/
def decoratedText : String := "@dec\ndef f():\n    pass\n"

/-- The tree of the function with its decorator. -/
def decoratedTree : SpanTree :=
  .node "module" 0 23 [.node "decorated_definition" 0 22 [.node "decorator" 0 4 [], .node "function_definition" 5 22
    [.node "identifier" 9 10 [], .node "block" 18 22 []]]]

end Sample

/-- A function with a decorator is a definition at the top of its file, but no entity is extracted. -/
theorem decorated_function_not_extracted : ∃ l ∈ languages, l.name = "python" ∧
    let root := Sample.decoratedTree.resolve Sample.decoratedText.toList
    let read : SyntaxReader := fun _ _ => root
    let entities := (l.outline read (.relative ["a.py"]) (some Sample.decoratedText.toUTF8)).entities
    Language.Python.Defined true root ⟨none, [0, 1]⟩ ∧ entities = [] ∧
      Language.Python.Extracts false "a.py" root entities ∧ ¬ Language.Python.Extracts true "a.py" root entities := by
  have hpython : languages.head (List.cons_ne_nil _ _) ∈ languages := List.mem_cons_self
  refine ⟨_, hpython, rfl, ?_⟩
  intro root read entities
  have htext : String.fromUTF8? Sample.decoratedText.toUTF8 = some Sample.decoratedText := by decide +kernel
  have hnone : entities = [] := by decide +kernel
  obtain ⟨hbare, hall⟩ : Language.Python.Extracts false "a.py" root entities ∧
      (Language.Python.Extracts true "a.py" root entities ↔ Language.Python.Undecorated root) :=
    Language.Python.definitions_extracted_iff hpython rfl read (.relative ["a.py"]) htext
  have hdecorated : ∃ t, Language.Python.Decorated root [] [0, 1] t := ⟨_, 0, 1, _, rfl, rfl, rfl, rfl, Or.inl rfl⟩
  obtain ⟨t, ht⟩ := hdecorated
  refine ⟨⟨[], t, .top, Or.inr ⟨rfl, ht⟩⟩, hnone, hbare, fun hextracts => ?_⟩
  exact hall.mp hextracts none [] [0, 1] t .top ht

end CodeAtlas
