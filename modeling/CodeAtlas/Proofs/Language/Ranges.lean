import Mathlib
import CodeAtlas.Proofs.Language.Spans

/-!
# The line ranges of declarations

The rows of a node lie between those of the node above it, since newlines are counted from the start of the text. An
entity has the lines of its node, and what is found inside of it is found below its node. So the walk lists every entity
after the one that it hangs from, and inside the lines of that one.

## Main definitions

* `Tree.RowsWithin`: rows that lie inside those of the node above, all the way down
* `Entity.Covers`: the lines of one entity are among those of another
* `Language.Placed`: an entity in a range of rows that hangs where the walk is, or from one that covers it

## Main results

* `SpanTree.Fits.rowsWithin`: the rows of a tree that fits a text lie inside each other
* `Language.placed_walk`: what holds of a rule at each node holds of the entities of a walk and those before them
* `Language.outline_ranges`: the line ranges of the entities of a source file
-/

namespace CodeAtlas

/-! ## Rows -/

theorem rowFrom_mono (offset : Nat) {position position' : Nat} (h : position ≤ position') (cs : List Char) :
    rowFrom offset position cs ≤ rowFrom offset position' cs := by
  induction cs generalizing offset with
  | nil => exact le_rfl
  | cons c cs ih =>
    rw [rowFrom, rowFrom]
    by_cases hreached : position ≤ offset
    · rw [if_pos hreached]
      exact Nat.zero_le _
    · have hreached' : ¬ position' ≤ offset := fun h' => hreached (h.trans h')
      rw [if_neg hreached, if_neg hreached']
      exact Nat.add_le_add_left (ih _) _

theorem rowFrom_le_count (offset position : Nat) (cs : List Char) : rowFrom offset position cs ≤ cs.count '\n' := by
  induction cs generalizing offset with
  | nil => exact le_rfl
  | cons c cs ih =>
    rw [rowFrom, List.count_cons]
    simp only [beq_iff_eq]
    split
    · exact Nat.zero_le _
    · rw [Nat.add_comm]
      exact Nat.add_le_add_right (ih _) _

/-- A tree whose rows lie between two rows, and inside those of the node above, all the way down. -/
inductive Tree.RowsWithin : Nat → Nat → Tree → Prop
  | node {low high firstRow lastRow : Nat} (kind text : String) {children : List Tree} (hlow : low ≤ firstRow)
      (hle : firstRow ≤ lastRow) (hhigh : lastRow ≤ high) (hchildren : ∀ c ∈ children, RowsWithin firstRow lastRow c) :
      RowsWithin low high (.node kind text firstRow lastRow children)

theorem Tree.RowsWithin.widen {low high low' high' : Nat} {t : Tree} (h : t.RowsWithin low high) (hlow : low' ≤ low)
    (hhigh : high ≤ high') : t.RowsWithin low' high' := by
  obtain ⟨kind, text, hfirst, hle, hlast, hchildren⟩ := h
  exact .node kind text (hlow.trans hfirst) hle (hlast.trans hhigh) hchildren

theorem Tree.RowsWithin.of_mem_children {low high : Nat} {t : Tree} (h : t.RowsWithin low high) :
    ∀ c ∈ t.children, c.RowsWithin low high := by
  obtain ⟨kind, text, hfirst, hle, hlast, hchildren⟩ := h
  exact fun c hc => (hchildren c hc).widen hfirst hlast

/-- **The rows of a tree that fits a text lie inside each other.** -/
theorem SpanTree.Fits.rowsWithin {cs : List Char} {low high : Nat} {s : SpanTree} (h : s.Fits cs low high) :
    (s.resolve cs).RowsWithin (rowAt low cs) (rowAt high cs) := by
  induction h with
  | node kind hlow hle hhigh hstart hstop hchildren ih =>
    rw [resolve, resolveList_eq_map]
    refine .node kind _ (rowFrom_mono 0 hlow cs) (rowFrom_mono 0 hle cs) (rowFrom_mono 0 hhigh cs) ?_
    exact List.forall_mem_map.mpr ih

/-! ## Entities after those that they hang from -/

/-- The lines of an entity are among those of another. -/
def Entity.Covers (outer e : Entity) : Prop :=
  outer.firstLine ≤ e.firstLine ∧ e.lastLine ≤ outer.lastLine

/-- Something holds of each entity of a list and those before it. -/
def EachAfter (P : List Entity → Entity → Prop) (es : List Entity) : Prop :=
  ∀ front e back, es = front ++ e :: back → P front e

namespace EachAfter

variable {P Q : List Entity → Entity → Prop} {es es' : List Entity}

theorem nil : EachAfter P [] := by
  intro front e back h
  simp at h

theorem append (h : EachAfter P es) (h' : EachAfter (fun front e => P (es ++ front) e) es') :
    EachAfter P (es ++ es') := by
  intro front e back hsplit
  rcases List.append_eq_append_iff.mp hsplit with ⟨rest, rfl, hrest⟩ | ⟨rest, rfl, hrest⟩
  · exact h' rest e back hrest
  · -- the entity is the first of the second list, or it belongs to the first one
    cases rest with
    | nil => simpa using h' [] e back (by simpa using hrest.symm)
    | cons first rest =>
      obtain ⟨rfl, rfl⟩ := List.cons.inj hrest
      exact h front e rest rfl

theorem mono (h : EachAfter P es) (hPQ : ∀ front e, P front e → Q front e) : EachAfter Q es :=
  fun front e back hsplit => hPQ front e (h front e back hsplit)

end EachAfter

namespace Language

/-- An entity after some others lies in a range of rows. It hangs nowhere, where the walk is, or from one of the others
that covers it. -/
structure Placed (scope : Scope) (low high : Nat) (front : List Entity) (e : Entity) : Prop where
  low : low + 1 ≤ e.firstLine
  high : e.lastLine ≤ high + 1
  hangs : e.parent = none ∨ e.parent = scope.parent ∨ ∃ outer ∈ front, e.parent = some outer.id ∧ outer.Covers e

namespace Placed

variable {scope : Scope} {low high : Nat} {front : List Entity} {e : Entity}

theorem after (h : Placed scope low high front e) (es : List Entity) : Placed scope low high (es ++ front) e := by
  refine ⟨h.low, h.high, h.hangs.imp_right (Or.imp_right ?_)⟩
  rintro ⟨outer, houter, hcovers⟩
  exact ⟨outer, List.mem_append_right _ houter, hcovers⟩

/-- What is placed inside a node is placed where the walk came to the node, after what was found there. -/
theorem outside {file : File} {t : Tree} {f : Found} (hfound : f.Nested (FoundAt file t) scope) {inner : Scope}
    (hinner : inner ∈ f.inside.scope?) (h : Placed inner t.firstRow t.lastRow front e) (hlow : low ≤ t.firstRow)
    (hhigh : t.lastRow ≤ high) : Placed scope low high (f.entities ++ front) e := by
  refine ⟨(Nat.add_le_add_right hlow 1).trans h.low, h.high.trans (Nat.add_le_add_right hhigh 1), ?_⟩
  rcases h.hangs with hnone | hstart | ⟨outer, houter, hcovers⟩
  · exact Or.inl hnone
  · rw [hstart]
    rcases hfound.inside inner hinner with hnone | hsame | ⟨outer, houter, hid⟩
    · exact Or.inl hnone
    · exact Or.inr (Or.inl hsame)
    · -- the entity that it hangs from has the lines of the node
      obtain ⟨hfirst, hlast⟩ := (hfound.each outer houter).1.lines
      exact Or.inr (Or.inr ⟨outer, List.mem_append_left _ houter, hid, hfirst ▸ h.low, hlast ▸ h.high⟩)
  · exact Or.inr (Or.inr ⟨outer, List.mem_append_right _ houter, hcovers⟩)

end Placed

section

variable {file : File} {rule : Rule}

mutual

/-- **What holds of a rule at each node holds of the walk**: every entity lies in the rows of the tree, and comes after
the one that it hangs from. -/
theorem placed_walk (h : ∀ scope before t, (rule scope before t).Nested (FoundAt file t) scope) (scope : Scope)
    (before : List Tree) {low high : Nat} (t : Tree) (ht : t.RowsWithin low high) :
    EachAfter (Placed scope low high) (walk rule scope before t) := by
  cases t with
  | node kind text firstRow lastRow children =>
    cases ht with
    | node _ _ hlow hle hhigh hchildren =>
      have hfound := h scope before (.node kind text firstRow lastRow children)
      rw [walk]
      refine EachAfter.append ?_ ?_
      · intro front e back hsplit
        obtain ⟨hat, hhangs⟩ := hfound.each e (by simp [hsplit])
        obtain ⟨hfirst, hlast⟩ := hat.lines
        refine ⟨hfirst ▸ Nat.add_le_add_right hlow 1, hlast ▸ Nat.add_le_add_right hhigh 1, ?_⟩
        rcases hhangs with hnone | hsame | ⟨outer, houter, -⟩
        · exact Or.inl hnone
        · exact Or.inr (Or.inl hsame)
        · cases houter
      · split
        · exact EachAfter.nil
        · next inner hwhere =>
          refine (placed_walkList h inner [] children hchildren).mono fun front e hplaced => ?_
          exact hplaced.outside hfound (by rw [hwhere]; rfl) hlow hhigh
        · next inner hwhere =>
          refine (placed_walkBody h inner _ children hchildren).mono fun front e hplaced => ?_
          exact hplaced.outside hfound (by rw [hwhere]; rfl) hlow hhigh

theorem placed_walkList (h : ∀ scope before t, (rule scope before t).Nested (FoundAt file t) scope) (scope : Scope)
    (before : List Tree) {low high : Nat} (ts : List Tree) (hts : ∀ t ∈ ts, t.RowsWithin low high) :
    EachAfter (Placed scope low high) (walkList rule scope before ts) := by
  cases ts with
  | nil =>
    rw [walkList]
    exact EachAfter.nil
  | cons t ts =>
    obtain ⟨ht, hts⟩ := List.forall_mem_cons.mp hts
    rw [walkList]
    refine (placed_walk h scope before t ht).append ?_
    exact (placed_walkList h scope (t :: before) ts hts).mono fun front e hplaced => hplaced.after _

theorem placed_walkBody (h : ∀ scope before t, (rule scope before t).Nested (FoundAt file t) scope) (scope : Scope)
    (kind : String) {low high : Nat} (ts : List Tree) (hts : ∀ t ∈ ts, t.RowsWithin low high) :
    EachAfter (Placed scope low high) (walkBody rule scope kind ts) := by
  cases ts with
  | nil =>
    rw [walkBody]
    exact EachAfter.nil
  | cons t ts =>
    obtain ⟨ht, hts⟩ := List.forall_mem_cons.mp hts
    rw [walkBody]
    split
    · exact placed_walkChildren h scope t ht
    · exact placed_walkBody h scope kind ts hts

theorem placed_walkChildren (h : ∀ scope before t, (rule scope before t).Nested (FoundAt file t) scope) (scope : Scope)
    {low high : Nat} (t : Tree) (ht : t.RowsWithin low high) :
    EachAfter (Placed scope low high) (walkChildren rule scope t) := by
  cases t with
  | node kind text firstRow lastRow children =>
    rw [walkChildren]
    exact placed_walkList h scope [] children ht.of_mem_children

end

end

/-! ## The entities of a source file -/

/-- In all languages but one, declarations hang where the walk is. -/
theorem nested_found_rule {l : Language} (hl : l ∈ languages) (hname : l.name ≠ "go") (file : File) (scope : Scope)
    (before : List Tree) (t : Tree) : (l.rule file scope before t).Nested (FoundAt file t) scope := by
  by_cases hrust : l.name = "rust"
  · rw [eq_rust_of_name hl hrust]
    exact Rust.nested_rule file scope before t
  · refine (nested_declared_rule hl ?_ file scope before t).mono fun _ he => Or.inl he
    simp only [languages, List.mem_cons, List.not_mem_nil, or_false] at hl
    rcases hl with rfl | rfl | rfl | rfl | rfl | rfl | rfl | rfl | rfl <;> simp_all

/-- In all languages, the lines of an entity lie between those of the tree. -/
theorem lines_of_mem_entities {l : Language} (hl : l ∈ languages) (path : Path) {low high : Nat} {t : Tree}
    (ht : t.RowsWithin low high) :
    ∀ e ∈ l.entities path t, low + 1 ≤ e.firstLine ∧ e.firstLine ≤ e.lastLine ∧ e.lastLine ≤ high + 1 := by
  rw [← map_snd_sightings, List.forall_mem_map]
  rintro ⟨node, e⟩ hx
  obtain ⟨hrows, scope, before, he⟩ := of_mem_sightingsBelow (fun _ h => h.of_mem_children) _ t ht _ hx
  obtain ⟨hfirst, hlast⟩ := (foundAt_of_mem_rule hl _ scope before node e he).lines
  cases hrows with
  | node kind text hlow hle hhigh _ =>
    rw [hfirst, hlast]
    exact ⟨Nat.add_le_add_right hlow 1, Nat.add_le_add_right hle 1, Nat.add_le_add_right hhigh 1⟩

/-- **The line ranges of the entities of a source file.** The content is valid UTF-8, and the text is read as a tree
whose spans lie between characters, inside the text and inside each other. Then there is one line more than the text has
newlines, and the lines of every entity are among these, in their order. In all languages but one, whose methods hang
from the type of their receiver, every entity that hangs from another comes after one with that identifier, and its lines
are among those of that one. -/
theorem outline_ranges {l : Language} (hl : l ∈ languages) {read : SyntaxReader} {path : Path} {content : ByteArray}
    {text : String} (htext : String.fromUTF8? content = some text) {tree : SpanTree}
    (hfits : tree.Fits text.toList 0 text.utf8ByteSize)
    (hread : read (l.grammar (suffixOf path)) text = tree.resolve text.toList) :
    let lines := text.toList.count '\n' + 1
    let outline := l.outline read path (some content)
    outline.lines = some lines ∧
      (∀ e ∈ outline.entities, 1 ≤ e.firstLine ∧ e.firstLine ≤ e.lastLine ∧ e.lastLine ≤ lines) ∧
      (l.name ≠ "go" → ∀ front e back, outline.entities = front ++ e :: back → ∀ p, e.parent = some p →
        ∃ outer ∈ front, outer.id = p ∧ outer.firstLine ≤ e.firstLine ∧ e.lastLine ≤ outer.lastLine) := by
  intro lines outline
  have houtline : outline = l.outlineText read path text := by
    simp only [outline, Language.outline, Option.bind_some, htext]
  have hentities : outline.entities = l.entities path (tree.resolve text.toList) := by
    rw [houtline, outlineText, hread]
  have hrows : (tree.resolve text.toList).RowsWithin 0 (text.toList.count '\n') :=
    hfits.rowsWithin.widen (Nat.zero_le _) (rowFrom_le_count 0 _ _)
  refine ⟨by rw [houtline, outlineText], ?_, fun hname front e back hsplit p hp => ?_⟩
  · rw [hentities]
    simpa using lines_of_mem_entities hl path hrows
  · have hplaced := placed_walkChildren (nested_found_rule hl hname _) .top _ hrows front e back (hentities.symm.trans hsplit)
    rcases hplaced.hangs with hnone | hstart | ⟨outer, houter, hid, hcovers⟩
    · cases hnone.symm.trans hp
    · cases hstart.symm.trans hp
    · exact ⟨outer, houter, Option.some.inj (hid.symm.trans hp), hcovers⟩

end Language

namespace Sample

/-- A text with a class that has one method. -/
def classText : String := "class Ä:\n  def f(self):\n    pass\n"

/-- The class and the method in the text. -/
def classTree : SpanTree :=
  .node "module" 0 34 [.node "class_definition" 0 33 [.node "identifier" 6 8 [], .node "block" 12 33
    [.node "function_definition" 12 33 [.node "identifier" 16 17 []]]]]

end Sample

/-- A class with an umlaut in its name has a method, in a text of three lines that ends with a newline. The method comes
after the class, inside its lines. -/
theorem outline_ranges_of_class : ∃ l ∈ languages, l.name = "python" ∧
    let read : SyntaxReader := fun _ _ => Sample.classTree.resolve Sample.classText.toList
    let outline := l.outline read (.relative ["a.py"]) (some Sample.classText.toUTF8)
    outline.lines = some 4 ∧ ∃ outer method, outline.entities = [outer, method] ∧ outer.id = "a.py:Ä" ∧
      method.parent = some "a.py:Ä" ∧ outer.Covers method ∧ 1 ≤ outer.firstLine ∧ outer.lastLine ≤ 4 := by
  have hpython : languages.head (List.cons_ne_nil _ _) ∈ languages := List.mem_cons_self
  refine ⟨_, hpython, rfl, ?_⟩
  intro read outline
  have htext : String.fromUTF8? Sample.classText.toUTF8 = some Sample.classText := by decide +kernel
  have hfits : Sample.classTree.Fits Sample.classText.toList 0 Sample.classText.utf8ByteSize := by decide +kernel
  have hread : read ((languages.head (List.cons_ne_nil _ _)).grammar (Language.suffixOf (.relative ["a.py"])))
      Sample.classText = Sample.classTree.resolve Sample.classText.toList := rfl
  obtain ⟨hlines, hranges, hnested⟩ := Language.outline_ranges hpython htext hfits hread
  have hids : outline.entities.map (fun e => (e.id, e.parent)) = [("a.py:Ä", none), ("a.py:Ä.f", some "a.py:Ä")] := by
    decide +kernel
  obtain ⟨outer, method, hentities⟩ : ∃ outer method, outline.entities = [outer, method] :=
    List.length_eq_two.mp (by simpa using congrArg List.length hids)
  rw [hentities] at hids
  obtain ⟨⟨hid, -⟩, -, hparent⟩ : (outer.id = _ ∧ outer.parent = _) ∧ method.id = _ ∧ method.parent = _ := by
    simpa using hids
  obtain ⟨outer', houter, -, hcovers⟩ := hnested (by decide) [outer] method [] hentities _ hparent
  obtain rfl := List.mem_singleton.mp houter
  obtain ⟨hfirst, -, hlast⟩ := hranges outer' (hentities ▸ List.mem_cons_self)
  have hfour : Sample.classText.toList.count '\n' + 1 = 4 := by decide +kernel
  exact ⟨hlines.trans (congrArg some hfour), outer', method, hentities, hid, hparent, hcovers, hfirst, hfour ▸ hlast⟩

end CodeAtlas
