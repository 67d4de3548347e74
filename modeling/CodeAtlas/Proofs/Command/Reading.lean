import Mathlib
import CodeAtlas.Command
import CodeAtlas.Proofs.Language.Spans
import CodeAtlas.Proofs.Text.Newlines

/-!
# Reading the lines of a declaration

The lines of an entity are meant to be handed to the command that reads lines. That command never refuses them. What it
prints holds the text of the declaration, with its line ends as newlines, for every declaration of every tree over a
text if and only if no carriage return of the text stands alone: lines of entities are counted by newlines, lines that
are read are counted after returns became newlines.

## Main definitions

* `Workspace.Holds`: a project with an index, and a file with a text that can be opened
* `Workspace.Prints`: what is printed for the lines of an entity
* `Sighted`: the entities that some language finds in some tree over a text, with their nodes

## Main results

* `Sighted.prints`: what is printed for the lines of an entity
* `Sighted.shown`: a declaration is shown if no return before its end stands alone
* `ranges_shown_iff_paired`: lines of entities show their declarations exactly if all returns are paired
-/

namespace CodeAtlas

open Text

open String (utf8Len utf8Len_append)

/-! ## Ranges of lines -/

theorem selectLines_range {first last : Nat} {lines : List String} (hle : first ≤ last) (hlast : last < lines.length) :
    selectLines (some ↑(first + 1)) (some ↑(last + 1)) lines = .ok ((lines.take (last + 1)).drop first) := by
  have hfirst : ¬(↑(first + 1) : Int) < 1 := by omega
  have hcount : ¬((↑(last + 1) : Int) = 0 ∨ (↑lines.length : Int) < ↑(last + 1)) := by omega
  have horder : ¬(↑(last + 1) : Int) < ↑(first + 1) := by omega
  have hstart : ((↑(first + 1) : Int) - 1).toNat = first := by omega
  simp only [selectLines, if_neg hfirst, if_neg hcount, if_neg horder, Int.toNat_natCast, hstart]

theorem length_cutAt (sep : Char) (s : String) : (cutAt sep s).length = s.toList.count sep + 1 := by
  rw [cutAt, List.length_map, length_splitOn]

theorem joinWith_range (first last : Nat) (s : String) :
    joinWith "\n" (((cutAt '\n' s).take (last + 1)).drop first) ++ "\n" =
      String.ofList (rangeChars first last s.toList) := by
  apply String.ext
  have hid : String.toList ∘ String.ofList = id := funext fun cs => by simp
  rw [String.toList_append, toList_joinWith, rangeChars, cutAt, List.map_drop, List.map_take, List.map_map, hid,
    List.map_id]
  exact String.toList_ofList.symm

/-- The lines between two rows that the text has are printed with a newline after each. -/
theorem readReply_range {access : Access} {path : String} {absolute : Path} {e : Entry} {content : ByteArray}
    {text : String} (hcontent : e.content? access.asUser = some content) (htext : String.fromUTF8? content = some text)
    {first last : Nat} (hle : first ≤ last) (hlast : last ≤ text.toList.count '\n') :
    readReply access path absolute (some ↑(first + 1)) (some ↑(last + 1)) e =
      { output := some (.text (String.ofList (rangeChars first last (normalizeNewlinesChars text.toList)))) } := by
  have hread : readText access e = .ok (normalizeNewlines text) := by
    cases e with
    | folder items locked => cases hcontent
    | file bytes locked =>
      rw [Entry.content?] at hcontent
      split at hcontent
      · cases hcontent
      · next hopen =>
        obtain rfl := Option.some.inj hcontent
        simp only [readText, if_neg hopen, htext]
  have hrows : last < (cutAt '\n' (normalizeNewlines text)).length := by
    rw [length_cutAt, normalizeNewlines, String.toList_ofList]
    exact Nat.lt_succ_of_le (hlast.trans (count_le_count_normalize text.toList))
  rw [readReply, hread]
  simp only [selectLines_range hle hrows, joinWith_range]
  rw [normalizeNewlines, String.toList_ofList]

/-! ## The lines of entities -/

/-- A project with an index, and a file of it that can be opened and holds a text. -/
structure Workspace.Holds (w : Workspace) (access : Access) (project : Option String) (path text : String) : Prop where
  index : w.hasDatabase access.asUser (databasePath (w.resolve project)) = .ok true
  file : ∃ e content,
    w.disk.look access.asUser ((w.resolve project).append (.ofString path))
      ((w.resolve project).append (.ofString path)).parts = .ok (some e) ∧
    e.content? access.asUser = some content ∧ String.fromUTF8? content = some text

/-- A text is printed, and nothing goes wrong, when the lines of an entity are read. -/
def Workspace.Prints (w : Workspace) (access : Access) (project : Option String) (path : String) (e : Entity)
    (out : String) : Prop :=
  (w.run access (.read path (some e.firstLine) (some e.lastLine) project)).1 = .ok { output := some (.text out) }

/-- An entity that some language finds in some tree over a text, with its node. -/
def Sighted (text : String) (x : Tree × Entity) : Prop :=
  ∃ l ∈ languages, ∃ (file : Path) (tree : SpanTree), tree.Fits text.toList 0 text.utf8ByteSize ∧
    x ∈ l.sightings file (tree.resolve text.toList)

section

variable {w : Workspace} {access : Access} {project : Option String} {path text : String}

theorem Workspace.Prints.unique {e : Entity} {out out' : String} (h : w.Prints access project path e out)
    (h' : w.Prints access project path e out') : out = out' := by
  have heq := h.symm.trans h'
  simpa using heq

theorem Workspace.Holds.prints (h : w.Holds access project path text) {e : Entity} {first last : Nat}
    (hfirst : e.firstLine = first + 1) (hlast : e.lastLine = last + 1) (hle : first ≤ last)
    (hcount : last ≤ text.toList.count '\n') :
    w.Prints access project path e
      (String.ofList (rangeChars first last (normalizeNewlinesChars text.toList))) := by
  obtain ⟨entry, content, hlook, hcontent, hutf⟩ := h.file
  unfold Workspace.Prints
  rw [Workspace.run, Workspace.ask, hfirst, hlast]
  simp only [h.index, Workspace.readLines, hlook, Except.map, readReply_range hcontent hutf hle hcount]

/-- **What is printed for the lines of an entity**: the text is cut where its node starts and ends, and the rows are
counted by newlines, in a text where returns are newlines too. -/
theorem Sighted.prints (h : w.Holds access project path text) {x : Tree × Entity} (hx : Sighted text x) :
    ∃ pre mid post, x.1.Cuts text.toList pre mid post ∧ w.Prints access project path x.2 (String.ofList
      (rangeChars (pre.count '\n') ((pre ++ mid).count '\n') (normalizeNewlinesChars text.toList))) := by
  obtain ⟨l, hl, file, tree, hfits, hmem⟩ := hx
  obtain ⟨⟨s, low, high, hs, hnode⟩, hfirst, hlast⟩ :=
    Language.lines_of_mem_sightings hl ⟨tree, _, _, hfits, rfl⟩ x hmem
  obtain ⟨pre, mid, post, hcuts⟩ := hs.exists_cuts
  rw [← hnode] at hcuts
  rw [hcuts.firstRow] at hfirst
  rw [hcuts.lastRow] at hlast
  refine ⟨pre, mid, post, hcuts, h.prints hfirst hlast ?_ ?_⟩
  · exact List.Sublist.count_le _ (List.sublist_append_left pre mid)
  · rw [hcuts.whole]
    exact List.Sublist.count_le _ (List.sublist_append_left (pre ++ mid) post)

/-- The lines of a declaration show it, if no return before its end stands alone. -/
theorem Sighted.shown (h : w.Holds access project path text) {x : Tree × Entity} (hx : Sighted text x) :
    ∃ pre mid post out, x.1.Cuts text.toList pre mid post ∧ w.Prints access project path x.2 out ∧
      (PairedReturns (pre ++ mid) → (normalizeNewlines x.1.text).toList <:+: out.toList) := by
  obtain ⟨pre, mid, post, hcuts, hprints⟩ := hx.prints h
  refine ⟨pre, mid, post, _, hcuts, hprints, fun hpaired => ?_⟩
  rw [hcuts.text, normalizeNewlines, String.toList_ofList, String.toList_ofList, String.toList_ofList, hcuts.whole]
  exact infix_rangeChars hpaired post

/-! ## A function at the start of a text -/

/-- The tree of a text with one function at its start. -/
def functionTree (size stop : Nat) : SpanTree :=
  .node "module" 0 size [.node "function_definition" 0 stop []]

theorem fits_functionTree (front back : List Char) :
    (functionTree (utf8Len (front ++ back)) (utf8Len front)).Fits (front ++ back) 0 (utf8Len (front ++ back)) := by
  have hzero : IsBoundary (front ++ back) 0 := ⟨[], List.nil_prefix, rfl⟩
  have hfront : IsBoundary (front ++ back) (utf8Len front) := ⟨front, List.prefix_append front back, rfl⟩
  have hle : utf8Len front ≤ utf8Len (front ++ back) := by
    rw [utf8Len_append]
    exact Nat.le_add_right _ _
  refine .node _ le_rfl (Nat.zero_le _) le_rfl hzero ⟨_, List.prefix_rfl, rfl⟩ fun c hc => ?_
  rw [List.mem_singleton.mp hc]
  exact .node _ le_rfl (Nat.zero_le _) hle hzero hfront fun c hc => by cases hc

/-- Whatever a text starts with may be a function. -/
theorem exists_sighted_front {front back : List Char} (htext : text.toList = front ++ back) :
    ∃ x, Sighted text x ∧ x.1.text = String.ofList front ∧ x.2.firstLine = 0 + 1 ∧
      x.2.lastLine = front.count '\n' + 1 := by
  have hsize : utf8Len text.toList = text.utf8ByteSize := by simp
  have hfits := fits_functionTree front back
  rw [← htext, hsize] at hfits
  refine ⟨_, ⟨_, List.mem_cons_self, .relative [], _, hfits, List.mem_cons_self⟩, ?_, ?_, ?_⟩
  · have hslice := slice_append [] front back
    rw [List.nil_append, List.nil_append, ← htext] at hslice
    exact congrArg String.ofList hslice
  · exact congrArg (· + 1) (rowAt_append [] text.toList)
  · have hrow := rowAt_append front back
    rw [← htext] at hrow
    exact congrArg (· + 1) hrow

/-- **Lines of entities show their declarations exactly if all returns are paired.** Reading the lines of an entity never
fails, and shows its declaration if every carriage return before the end of it is followed by a newline or stands at this
end. All entities that languages may find in the text are shown if and only if every return of the text is followed by a
newline or is its last character. -/
theorem ranges_shown_iff_paired (h : w.Holds access project path text) :
    (∀ x, Sighted text x → ∃ pre mid post out, x.1.Cuts text.toList pre mid post ∧
        w.Prints access project path x.2 out ∧
        (PairedReturns (pre ++ mid) → (normalizeNewlines x.1.text).toList <:+: out.toList)) ∧
      ((∀ x, Sighted text x → ∃ out, w.Prints access project path x.2 out ∧
          (normalizeNewlines x.1.text).toList <:+: out.toList) ↔ PairedReturns text.toList) := by
  refine ⟨fun x hx => hx.shown h, fun hshown => ?_, fun hpaired x hx => ?_⟩
  · by_contra hlone
    -- a function that ends after the return that stands alone is not shown
    obtain ⟨front, c, back, htext, hc⟩ := exists_lone_of_not_paired hlone
    obtain ⟨x, hx, hpart, hfirst, hlast⟩ := exists_sighted_front htext
    obtain ⟨out, hout, hholds⟩ := hshown x hx
    have hcount : (front ++ ['\r', c]).count '\n' ≤ text.toList.count '\n' := by
      rw [htext]
      exact List.Sublist.count_le _ (List.sublist_append_left _ back)
    rw [hout.unique (h.prints hfirst hlast (Nat.zero_le _) hcount), hpart, normalizeNewlines, String.toList_ofList,
      String.toList_ofList, String.toList_ofList] at hholds
    exact not_infix_rangeChars hc front _ hholds
  · obtain ⟨pre, mid, post, out, hcuts, hprints, hholds⟩ := hx.shown h
    rw [hcuts.whole] at hpaired
    exact ⟨out, hprints, hholds hpaired.of_append_left⟩

end

namespace Sample

/-- A text whose lines end with returns alone. -/
def returnText : String := "# a\rdef f():\r    pass\r"

/-- A project with an index and a file with that text. -/
def returns : Workspace where
  disk := .folder [("project", .folder [(".kontexto", .folder [("index.db", .file "".toUTF8 false)] false),
    ("a.py", .file returnText.toUTF8 false)] false)] false
  current := ⟨"/", ["project"]⟩
  read _ text := .node "module" text 0 0 []

theorem holds_returns : returns.Holds {} none "a.py" returnText where
  index := by decide +kernel
  file := ⟨_, returnText.toUTF8, rfl, rfl, by decide +kernel⟩

theorem not_pairedReturns_returnText : ¬PairedReturns returnText.toList := by
  intro h
  obtain hnil | ⟨rest, hrest⟩ := h "# a".toList "def f():\r    pass\r".toList (by decide)
  · exact absurd hnil (by decide)
  · exact absurd (List.cons.inj hrest).1 (by decide)

end Sample

/-- Some declaration in a text whose lines end with returns is not shown by its lines. -/
theorem range_misses_declaration : Sample.returns.Holds {} none "a.py" Sample.returnText ∧
    ∃ x, Sighted Sample.returnText x ∧ ∃ out, Sample.returns.Prints {} none "a.py" x.2 out ∧
      ¬(normalizeNewlines x.1.text).toList <:+: out.toList := by
  refine ⟨Sample.holds_returns, ?_⟩
  obtain ⟨hprinted, hshown⟩ := ranges_shown_iff_paired Sample.holds_returns
  by_contra hall
  push Not at hall
  refine Sample.not_pairedReturns_returnText (hshown.mp fun x hx => ?_)
  obtain ⟨-, -, -, out, -, hout, -⟩ := hprinted x hx
  exact ⟨out, hout, hall x hx out hout⟩

end CodeAtlas
