import Mathlib
import CodeAtlas.Proofs.Language.Nesting
import CodeAtlas.Tree.Span

/-!
# Where declarations stand in a text

A tree over a text that lies between characters cuts the text at each of its nodes: into what precedes the node, the
text of the node, and what follows it. The rows of the node count the newlines in front of its two ends. The walk makes
every entity of a node, and its lines are those of the node.

## Main definitions

* `SpanTree.Fits`: spans that lie between characters, inside each other
* `Tree.Cuts`: a node cuts a text in three, and its rows count newlines
* `Language.sightings`: the entities of a tree, each with the node at which it was found

## Main results

* `SpanTree.Fits.exists_cuts`: the text is cut by each node of a tree that fits
* `Language.map_snd_sightings`: the sightings are those of the entities
* `Language.lines_of_mem_sightings`: the lines of an entity are those of its node, in every language
-/

namespace CodeAtlas

open String (utf8Len utf8Len_cons utf8Len_append utf8Len_eq_zero)

/-! ## Bytes and characters -/

theorem add_utf8Len_cons (offset : Nat) (c : Char) (cs : List Char) :
    offset + utf8Len (c :: cs) = offset + c.utf8Size + utf8Len cs := by
  rw [utf8Len_cons]
  omega

theorem sliceFrom_inside {offset start : Nat} (h : start ≤ offset) (mid post : List Char) :
    sliceFrom offset start (offset + utf8Len mid) (mid ++ post) = mid := by
  induction mid generalizing offset with
  | nil =>
    cases post with
    | nil => rfl
    | cons c post =>
      have hpos := Char.utf8Size_pos c
      rw [List.nil_append, sliceFrom, if_pos (by simpa using hpos)]
  | cons c mid ih =>
    have hnext : sliceFrom (offset + c.utf8Size) start (offset + c.utf8Size + utf8Len mid) (mid ++ post) = mid :=
      ih (by omega)
    rw [List.cons_append, sliceFrom, add_utf8Len_cons, if_neg (by omega), if_pos h, hnext]

theorem sliceFrom_append (offset : Nat) (pre mid post : List Char) :
    sliceFrom offset (offset + utf8Len pre) (offset + utf8Len (pre ++ mid)) (pre ++ (mid ++ post)) = mid := by
  induction pre generalizing offset with
  | nil => exact sliceFrom_inside le_rfl mid post
  | cons c pre ih =>
    have hpos := Char.utf8Size_pos c
    rw [List.cons_append, List.cons_append, sliceFrom, add_utf8Len_cons, add_utf8Len_cons, if_neg (by omega),
      if_neg (by omega), ih]

theorem rowFrom_append (offset : Nat) (pre rest : List Char) :
    rowFrom offset (offset + utf8Len pre) (pre ++ rest) = pre.count '\n' := by
  induction pre generalizing offset with
  | nil =>
    cases rest with
    | nil => rfl
    | cons c rest => rw [List.nil_append, rowFrom, if_pos (by simp), List.count_nil]
  | cons c pre ih =>
    have hpos := Char.utf8Size_pos c
    rw [List.cons_append, rowFrom, add_utf8Len_cons, if_neg (by omega), ih, List.count_cons, Nat.add_comm]
    simp only [beq_iff_eq]

theorem slice_append (pre mid post : List Char) :
    slice (utf8Len pre) (utf8Len (pre ++ mid)) (pre ++ (mid ++ post)) = mid := by
  simpa only [slice, Nat.zero_add] using sliceFrom_append 0 pre mid post

theorem rowAt_append (pre rest : List Char) : rowAt (utf8Len pre) (pre ++ rest) = pre.count '\n' := by
  simpa only [rowAt, Nat.zero_add] using rowFrom_append 0 pre rest

/-! ## Trees over a text -/

/-- A byte offset between two characters, or at an end of the text. -/
def IsBoundary (cs : List Char) (position : Nat) : Prop :=
  ∃ front, front <+: cs ∧ utf8Len front = position

/-- A tree over a text between two offsets. Its spans lie between characters, and inside the span of their parent. -/
inductive SpanTree.Fits (cs : List Char) : Nat → Nat → SpanTree → Prop
  | node {low high start stop : Nat} (kind : String) {children : List SpanTree} (hlow : low ≤ start)
      (hle : start ≤ stop) (hhigh : stop ≤ high) (hstart : IsBoundary cs start) (hstop : IsBoundary cs stop)
      (hchildren : ∀ c ∈ children, Fits cs start stop c) : Fits cs low high (.node kind start stop children)

instance (cs : List Char) (position : Nat) : Decidable (IsBoundary cs position) :=
  decidable_of_iff (∃ front ∈ cs.inits, utf8Len front = position) (by simp only [List.mem_inits, IsBoundary])

mutual

/-- Whether a tree is one over a text between two offsets. -/
def SpanTree.fits (cs : List Char) (low high : Nat) : SpanTree → Bool
  | .node _ start stop children =>
    decide (low ≤ start ∧ start ≤ stop ∧ stop ≤ high ∧ IsBoundary cs start ∧ IsBoundary cs stop) &&
      fitsAll cs start stop children

/-- Whether some trees are such trees. -/
def SpanTree.fitsAll (cs : List Char) (low high : Nat) : List SpanTree → Bool
  | [] => true
  | s :: rest => s.fits cs low high && fitsAll cs low high rest

end

mutual

theorem SpanTree.fits_iff {cs : List Char} {low high : Nat} (s : SpanTree) :
    s.fits cs low high = true ↔ s.Fits cs low high := by
  cases s with
  | node kind start stop children =>
    rw [fits, Bool.and_eq_true, decide_eq_true_iff, fitsAll_iff children]
    constructor
    · rintro ⟨⟨hlow, hle, hhigh, hstart, hstop⟩, hchildren⟩
      exact .node kind hlow hle hhigh hstart hstop hchildren
    · rintro ⟨_, hlow, hle, hhigh, hstart, hstop, hchildren⟩
      exact ⟨⟨hlow, hle, hhigh, hstart, hstop⟩, hchildren⟩

theorem SpanTree.fitsAll_iff {cs : List Char} {low high : Nat} (ss : List SpanTree) :
    fitsAll cs low high ss = true ↔ ∀ s ∈ ss, s.Fits cs low high := by
  cases ss with
  | nil => simp [fitsAll]
  | cons s rest => rw [fitsAll, Bool.and_eq_true, fits_iff s, fitsAll_iff rest, List.forall_mem_cons]

end

instance (cs : List Char) (low high : Nat) (s : SpanTree) : Decidable (s.Fits cs low high) :=
  decidable_of_iff _ s.fits_iff

theorem exists_cut_of_boundaries {cs : List Char} {start stop : Nat} (hstart : IsBoundary cs start)
    (hstop : IsBoundary cs stop) (hle : start ≤ stop) :
    ∃ pre mid post, cs = pre ++ (mid ++ post) ∧ utf8Len pre = start ∧ utf8Len (pre ++ mid) = stop := by
  obtain ⟨pre, hpre, rfl⟩ := hstart
  obtain ⟨front, ⟨post, rfl⟩, rfl⟩ := hstop
  rcases List.prefix_or_prefix_of_prefix hpre (List.prefix_append front post) with ⟨mid, rfl⟩ | ⟨extra, rfl⟩
  · exact ⟨pre, mid, post, by simp, rfl, rfl⟩
  · -- the start is not before the stop, so the two are the same
    have hextra : extra = [] := by
      rw [utf8Len_append] at hle
      exact utf8Len_eq_zero.mp (by omega)
    subst hextra
    exact ⟨front, [], post, by simp, by simp, by simp⟩

/-- A node cuts a text into what precedes it, its own text and what follows it. Its rows count the newlines in front of
its two ends. -/
structure Tree.Cuts (t : Tree) (cs pre mid post : List Char) : Prop where
  whole : cs = pre ++ mid ++ post
  text : t.text = String.ofList mid
  firstRow : t.firstRow = pre.count '\n'
  lastRow : t.lastRow = (pre ++ mid).count '\n'

namespace SpanTree

theorem resolveList_eq_map (cs : List Char) (ts : List SpanTree) : resolveList cs ts = ts.map (resolve cs) := by
  induction ts with
  | nil => rfl
  | cons t ts ih => rw [resolveList, ih, List.map_cons]

/-- **Each node of a tree that fits cuts the text.** -/
theorem Fits.exists_cuts {cs : List Char} {low high : Nat} {s : SpanTree} (h : s.Fits cs low high) :
    ∃ pre mid post, (s.resolve cs).Cuts cs pre mid post := by
  obtain ⟨kind, -, hle, -, hstart, hstop, -⟩ := h
  obtain ⟨pre, mid, post, rfl, rfl, rfl⟩ := exists_cut_of_boundaries hstart hstop hle
  refine ⟨pre, mid, post, ⟨by simp, ?_, rowAt_append pre (mid ++ post), ?_⟩⟩
  · exact congrArg String.ofList (slice_append pre mid post)
  · have hrow := rowAt_append (pre ++ mid) post
    rwa [List.append_assoc] at hrow

end SpanTree

/-- A node of a tree that fits a text. -/
def Tree.IsOver (cs : List Char) (t : Tree) : Prop :=
  ∃ (s : SpanTree) (low high : Nat), s.Fits cs low high ∧ t = s.resolve cs

theorem Tree.IsOver.of_mem_children {cs : List Char} {t : Tree} (h : t.IsOver cs) : ∀ c ∈ t.children, c.IsOver cs := by
  obtain ⟨s, low, high, ⟨kind, -, -, -, -, -, hchildren⟩, rfl⟩ := h
  intro c hc
  rw [SpanTree.resolve, SpanTree.resolveList_eq_map] at hc
  obtain ⟨child, hchild, rfl⟩ := List.mem_map.mp hc
  exact ⟨child, _, _, hchildren child hchild, rfl⟩

/-! ## Entities and their nodes -/

namespace Language

mutual

/-- The entities in a tree, each with the node at which it was found. -/
def sightingsIn (rule : Rule) (scope : Scope) (before : List Tree) : Tree → List (Tree × Entity)
  | .node kind text firstRow lastRow children =>
    let found := rule scope before (.node kind text firstRow lastRow children)
    found.entities.map (Prod.mk (.node kind text firstRow lastRow children)) ++
      match found.inside with
      | .nowhere => []
      | .children inner => sightingsAmong rule inner [] children
      | .body bodyKind inner => sightingsInBody rule inner bodyKind children

/-- The entities in sibling nodes, of which `before` came before, each with its node. -/
def sightingsAmong (rule : Rule) (scope : Scope) (before : List Tree) : List Tree → List (Tree × Entity)
  | [] => []
  | t :: ts => sightingsIn rule scope before t ++ sightingsAmong rule scope (t :: before) ts

/-- The entities in the children of the first of some nodes that has a kind, each with its node. -/
def sightingsInBody (rule : Rule) (scope : Scope) (kind : String) : List Tree → List (Tree × Entity)
  | [] => []
  | t :: ts => if t.kind == kind then sightingsBelow rule scope t else sightingsInBody rule scope kind ts

/-- The entities in the children of a node, each with its node. -/
def sightingsBelow (rule : Rule) (scope : Scope) : Tree → List (Tree × Entity)
  | .node _ _ _ _ children => sightingsAmong rule scope [] children

end

/-- The entities in a syntax tree, each with the node at which it was found. -/
def sightings (l : Language) (path : Path) (t : Tree) : List (Tree × Entity) :=
  sightingsBelow (l.rule ⟨path.toString, l.dialect (suffixOf path)⟩) .top t

section

variable (rule : Rule)

mutual

theorem map_snd_sightingsIn (scope : Scope) (before : List Tree) (t : Tree) :
    (sightingsIn rule scope before t).map Prod.snd = walk rule scope before t := by
  cases t with
  | node kind text firstRow lastRow children =>
    rw [sightingsIn, walk, List.map_append, List.map_map]
    -- the entities at the node lose their node again, and the rest follows the walk
    refine congrArg₂ _ (List.map_id _) ?_
    cases (rule scope before (.node kind text firstRow lastRow children)).inside with
    | nowhere => rfl
    | children inner => exact map_snd_sightingsAmong inner [] children
    | body bodyKind inner => exact map_snd_sightingsInBody inner bodyKind children

theorem map_snd_sightingsAmong (scope : Scope) (before : List Tree) (ts : List Tree) :
    (sightingsAmong rule scope before ts).map Prod.snd = walkList rule scope before ts := by
  cases ts with
  | nil => rw [sightingsAmong, walkList, List.map_nil]
  | cons t ts =>
    rw [sightingsAmong, walkList, List.map_append, map_snd_sightingsIn scope before t,
      map_snd_sightingsAmong scope (t :: before) ts]

theorem map_snd_sightingsInBody (scope : Scope) (kind : String) (ts : List Tree) :
    (sightingsInBody rule scope kind ts).map Prod.snd = walkBody rule scope kind ts := by
  cases ts with
  | nil => rw [sightingsInBody, walkBody, List.map_nil]
  | cons t ts =>
    rw [sightingsInBody, walkBody]
    split
    · exact map_snd_sightingsBelow scope t
    · exact map_snd_sightingsInBody scope kind ts

theorem map_snd_sightingsBelow (scope : Scope) (t : Tree) :
    (sightingsBelow rule scope t).map Prod.snd = walkChildren rule scope t := by
  cases t with
  | node kind text firstRow lastRow children =>
    rw [sightingsBelow, walkChildren]
    exact map_snd_sightingsAmong scope [] children

end

end

/-- The sightings are those of the entities, in their order. -/
theorem map_snd_sightings (l : Language) (path : Path) (t : Tree) :
    (l.sightings path t).map Prod.snd = l.entities path t :=
  map_snd_sightingsBelow _ _ _

section

variable {Q : Tree → Prop} {rule : Rule}

mutual

/-- The node of a sighting is one at which the rule was applied. It has what passes from nodes to their children. -/
theorem of_mem_sightingsIn (hQ : ∀ t, Q t → ∀ c ∈ t.children, Q c)
    (scope : Scope) (before : List Tree) (t : Tree) (ht : Q t) :
    ∀ x ∈ sightingsIn rule scope before t, Q x.1 ∧ ∃ scope before, x.2 ∈ (rule scope before x.1).entities := by
  cases t with
  | node kind text firstRow lastRow children =>
    intro x hx
    have hchildren := hQ _ ht
    rw [sightingsIn] at hx
    rcases List.mem_append.mp hx with hx | hx
    · -- found at the node itself
      obtain ⟨e, he, rfl⟩ := List.mem_map.mp hx
      exact ⟨ht, scope, before, he⟩
    · split at hx
      · cases hx
      · exact of_mem_sightingsAmong hQ _ _ children hchildren x hx
      · exact of_mem_sightingsInBody hQ _ _ children hchildren x hx

theorem of_mem_sightingsAmong (hQ : ∀ t, Q t → ∀ c ∈ t.children, Q c)
    (scope : Scope) (before : List Tree) (ts : List Tree) (hts : ∀ t ∈ ts, Q t) :
    ∀ x ∈ sightingsAmong rule scope before ts, Q x.1 ∧ ∃ scope before, x.2 ∈ (rule scope before x.1).entities := by
  cases ts with
  | nil =>
    intro x hx
    rw [sightingsAmong] at hx
    cases hx
  | cons t ts =>
    intro x hx
    rw [sightingsAmong] at hx
    rcases List.mem_append.mp hx with hx | hx
    · exact of_mem_sightingsIn hQ scope before t (hts t List.mem_cons_self) x hx
    · exact of_mem_sightingsAmong hQ scope (t :: before) ts (fun t' ht' => hts t' (List.mem_cons_of_mem _ ht')) x hx

theorem of_mem_sightingsInBody (hQ : ∀ t, Q t → ∀ c ∈ t.children, Q c)
    (scope : Scope) (kind : String) (ts : List Tree) (hts : ∀ t ∈ ts, Q t) :
    ∀ x ∈ sightingsInBody rule scope kind ts, Q x.1 ∧ ∃ scope before, x.2 ∈ (rule scope before x.1).entities := by
  cases ts with
  | nil =>
    intro x hx
    rw [sightingsInBody] at hx
    cases hx
  | cons t ts =>
    intro x hx
    rw [sightingsInBody] at hx
    split at hx
    · exact of_mem_sightingsBelow hQ scope t (hts t List.mem_cons_self) x hx
    · exact of_mem_sightingsInBody hQ scope kind ts (fun t' ht' => hts t' (List.mem_cons_of_mem _ ht')) x hx

theorem of_mem_sightingsBelow (hQ : ∀ t, Q t → ∀ c ∈ t.children, Q c)
    (scope : Scope) (t : Tree) (ht : Q t) :
    ∀ x ∈ sightingsBelow rule scope t, Q x.1 ∧ ∃ scope before, x.2 ∈ (rule scope before x.1).entities := by
  cases t with
  | node kind text firstRow lastRow children =>
    rw [sightingsBelow]
    exact of_mem_sightingsAmong hQ scope [] children (hQ _ ht)

end

end

theorem FoundAt.lines {file : File} {t : Tree} {e : Entity} (h : FoundAt file t e) :
    e.firstLine = t.firstRow + 1 ∧ e.lastLine = t.lastRow + 1 := by
  obtain ⟨d, parent, rfl, rfl⟩ | ⟨d, rfl, rfl⟩ := h
  · exact ⟨rfl, rfl⟩
  · exact ⟨rfl, rfl⟩

/-- **The lines of an entity are those of its node**, in every language, and its node is one of the tree. -/
theorem lines_of_mem_sightings {l : Language} (hl : l ∈ languages) {path : Path} {cs : List Char} {t : Tree}
    (ht : t.IsOver cs) : ∀ x ∈ l.sightings path t,
      x.1.IsOver cs ∧ x.2.firstLine = x.1.firstRow + 1 ∧ x.2.lastLine = x.1.lastRow + 1 := by
  intro x hx
  obtain ⟨hover, scope, before, he⟩ := of_mem_sightingsBelow (fun _ h => h.of_mem_children) _ t ht x hx
  exact ⟨hover, (foundAt_of_mem_rule hl _ scope before x.1 x.2 he).lines⟩

end Language

end CodeAtlas
