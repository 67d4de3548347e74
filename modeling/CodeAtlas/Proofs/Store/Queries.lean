import Mathlib
import CodeAtlas.Proofs.Graph.Owned
import CodeAtlas.Proofs.Store.Patterns

/-!
# Which nodes mention a name

A list of names is kept in one column, and a query asks by patterns whether a name is among them: at the start, in the
middle or at the end, between commas, or as the whole column. The whole column is compared as it is. The patterns take
ASCII letters in either case, and see nothing behind a NUL. So a name is found exactly if it is the only one of the
list, or if the list as far as it is visible has several names and one of them is spelled like it up to case.

A query is exact if no name of the graph holds a NUL or is another spelling of the name that is asked for.

## Main definitions

* `visibleNames`: the names of a list that a pattern sees
* `Mentioned`: when a query finds a name in a list
* `Node.reloaded`: a node as it comes back from its row

## Main results

* `mentions_joinNames_iff`: a query finds a name in the column of a list exactly if it is mentioned
* `callers_subclasses_saved`: the answers of both queries about a saved graph
-/

namespace CodeAtlas

namespace Store

open Text

/-! ## Names in a column -/

/-- The names of a list that a pattern sees: those in front of the first NUL, the last of them cut there. -/
def visibleNames : List String → List String
  | [] => []
  | n :: ns => if '\x00' ∈ n.toList then [String.ofList (visibleChars n)] else n :: visibleNames ns

/-- When a query finds a name in a list: it is the only name, or one of several visible names is spelled like it. -/
def Mentioned (v : String) (names : List String) : Prop :=
  names = [v] ∨ 1 < (visibleNames names).length ∧ ∃ w ∈ visibleNames names, SameLetters w.toList v.toList

instance (v : String) (names : List String) : Decidable (Mentioned v names) :=
  inferInstanceAs (Decidable (_ ∨ _))

theorem visibleNames_of_forall_not_mem {names : List String} (h : ∀ w ∈ names, '\x00' ∉ w.toList) :
    visibleNames names = names := by
  induction names with
  | nil => rfl
  | cons n ns ih =>
    rw [visibleNames, if_neg (h n List.mem_cons_self), ih fun w hw => h w (List.mem_cons_of_mem _ hw)]

theorem takeWhile_append_of_mem {c : Char} {a : List Char} (h : c ∈ a) (b : List Char) :
    (a ++ b).takeWhile (· != c) = a.takeWhile (· != c) := by
  rw [List.takeWhile_append, if_neg]
  intro hlength
  have hself : a.takeWhile (· != c) = a := (List.takeWhile_prefix _).eq_of_length hlength
  simpa using List.takeWhile_eq_self_iff.mp hself c h

/-- The visible pieces of a column are the visible names. -/
theorem splitOn_visibleChars_joinWith {names : List String} (hne : names ≠ [])
    (hcomma : ∀ w ∈ names, ',' ∉ w.toList) :
    List.splitOn ',' (visibleChars (joinWith "," names)) = (visibleNames names).map String.toList := by
  induction names with
  | nil => exact absurd rfl hne
  | cons n ns ih =>
    have hn : ',' ∉ n.toList := hcomma n List.mem_cons_self
    have hcut : List.splitOn ',' (visibleChars n) = [visibleChars n] :=
      List.splitOn_eq_singleton fun h => hn ((List.takeWhile_prefix _).subset h)
    by_cases hns : ns = []
    · subst hns
      rw [joinWith_singleton, hcut, visibleNames]
      split
      · simp
      · next hnul => simp [visibleNames, visibleChars_of_not_mem hnul]
    · have hjoin : (joinWith "," (n :: ns)).toList = n.toList ++ ',' :: (joinWith "," ns).toList := by
        rw [toList_joinWith, toList_joinWith, List.map_cons, List.intercalate_cons_of_ne_nil (by simpa using hns)]
        simp
      rw [visibleNames]
      split
      · next hnul =>
        -- a NUL in the first name hides the other names
        rw [visibleChars, hjoin, takeWhile_append_of_mem hnul]
        simpa [visibleChars] using hcut
      · next hnul =>
        have hrest : visibleChars (joinWith "," (n :: ns)) = n.toList ++ ',' :: visibleChars (joinWith "," ns) := by
          rw [visibleChars, hjoin, List.takeWhile_append_of_pos (bne_nul_of_not_mem hnul)]
          rfl
        rw [hrest, List.splitOn_append_cons_self_of_not_mem hn, ih hns fun w hw => hcomma w (List.mem_cons_of_mem _ hw)]
        rfl

/-- **A query finds a name in the column of a list exactly if it is mentioned.** -/
theorem mentions_joinNames_iff {v : String} (hv : ',' ∉ v.toList) (hnul : '\x00' ∉ v.toList) {names : List String}
    (hcomma : ∀ w ∈ names, ',' ∉ w.toList) :
    Tables.mentions v (joinNames names) = true ↔ Mentioned v names := by
  by_cases hne : names = []
  · subst hne
    simp [joinNames, Tables.mentions, Mentioned, visibleNames]
  · have hcolumn : joinNames names = some (joinWith "," names) := by simp [joinNames, hne]
    rw [hcolumn, mentions_iff_matches hnul, matches_between_commas_iff hv, splitOn_visibleChars_joinWith hne hcomma,
      joinWith_eq_iff hv hne hcomma, or_comm, Mentioned]
    simp

/-- Names without NUL of which none is another spelling of a name mention it exactly if it is one of them. -/
theorem mentioned_iff_mem {v : String} {names : List String}
    (h : ∀ w ∈ names, '\x00' ∉ w.toList ∧ (SameLetters w.toList v.toList → w = v)) :
    Mentioned v names ↔ v ∈ names := by
  rw [Mentioned, visibleNames_of_forall_not_mem fun w hw => (h w hw).1]
  constructor
  · rintro (rfl | ⟨-, w, hw, hsame⟩)
    · exact List.mem_singleton_self v
    · exact (h w hw).2 hsame ▸ hw
  · intro hv
    match names, hv with
    | [n], hv => exact Or.inl (by rw [List.mem_singleton.mp hv])
    | n :: m :: rest, hv => exact Or.inr ⟨by simp, v, hv, .refl _⟩

end Store

/-! ## Queries about a saved graph -/

open Store

/-- A node as it comes back from its row: without children, and with the names that its columns give. -/
def Node.reloaded (n : Node) : Node :=
  { n.bare with calls := splitNames (joinNames n.calls), bases := splitNames (joinNames n.bases) }

/-- A node comes back as it was, without its children, unless a list of names is one empty name. -/
theorem Node.reloaded_eq_bare {n : Node} (hcomma : ∀ w ∈ n.calls ++ n.bases, ',' ∉ w.toList) (hcalls : n.calls ≠ [""])
    (hbases : n.bases ≠ [""]) : n.reloaded = n.bare := by
  rw [reloaded, splitNames_joinNames hcalls fun w hw => hcomma w (List.mem_append_left _ hw),
    splitNames_joinNames hbases fun w hw => hcomma w (List.mem_append_right _ hw)]
  rfl

theorem Store.NodeRow.toNode_of_ofNode? {n : Node} {r : NodeRow} (h : NodeRow.ofNode? n = .ok r) :
    r.toNode [] = n.reloaded := by
  obtain ⟨-, -, hname, hkind, hr⟩ := NodeRow.ofNode?_eq_ok_iff.mp h
  rw [hr, Node.reloaded, NodeRow.toNode, Node.bare, hname, hkind]

/-- What is selected from the rows of some nodes is what is selected from the nodes, if a row is selected exactly if
its node is. -/
theorem Store.map_filter_rows {β : Type} {ns : List Node} {rows : List NodeRow}
    (h : ns.map NodeRow.ofNode? = rows.map .ok) {p : NodeRow → Bool} {q : Node → Bool} {f : NodeRow → β} {k : Node → β}
    (hsame : ∀ n ∈ ns, ∀ r, NodeRow.ofNode? n = .ok r → p r = q n ∧ f r = k n) :
    (rows.filter p).map f = (ns.filter q).map k := by
  induction ns generalizing rows with
  | nil =>
    obtain rfl := List.map_eq_nil_iff.mp h.symm
    rfl
  | cons n ns ih =>
    obtain ⟨r, rest, rfl, hr, hrest⟩ := List.map_eq_cons_iff.mp h.symm
    obtain ⟨hp, hf⟩ := hsame n List.mem_cons_self r hr.symm
    have htail := ih hrest.symm fun m hm => hsame m (List.mem_cons_of_mem _ hm)
    rw [List.filter_cons, List.filter_cons, hp]
    split
    · rw [List.map_cons, List.map_cons, hf, htail]
    · exact htail

/-- **The answers about a saved graph** whose names have no commas. The callers of a name are the nodes that mention it
among their calls, and its subclasses are the classes that mention it among their bases, in the order of the graph. If
no name of these lists holds a NUL or is another spelling of the name, then these are exactly the nodes that have the
name in their lists. -/
theorem callers_subclasses_saved {R : Type} {c c' : Connection R} {g : Graph} (hsave : c.saveGraph g = (.ok (), c'))
    (hcomma : ∀ n ∈ g.nodes.map (·.2), ∀ w ∈ n.calls ++ n.bases, ',' ∉ w.toList) {v : String} (hv : ',' ∉ v.toList)
    (hnul : '\x00' ∉ v.toList) :
    let ns := g.nodes.map (·.2)
    let Plain := fun names : List String =>
      ∀ w ∈ names, '\x00' ∉ w.toList ∧ (SameLetters w.toList v.toList → w = v)
    c'.ask (·.callers v) = .ok ((ns.filter fun n => Mentioned v n.calls).map (·.id)) ∧
      c'.ask (·.subclasses v) =
        .ok ((ns.filter fun n => n.kind = some "class" ∧ Mentioned v n.bases).map Node.reloaded) ∧
      ((∀ n ∈ ns, Plain n.calls) → c'.ask (·.callers v) = .ok ((ns.filter fun n => v ∈ n.calls).map (·.id))) ∧
      ((∀ n ∈ ns, Plain n.bases) →
        c'.ask (·.subclasses v) =
          .ok ((ns.filter fun n => n.kind = some "class" ∧ v ∈ n.bases).map Node.reloaded)) ∧
      ∀ n ∈ ns, n.calls ≠ [""] → n.bases ≠ [""] → n.reloaded = n.bare := by
  intro ns Plain
  obtain ⟨rows, hrows, hview, hopen⟩ := Connection.eq_of_saveGraph hsave
  have hstored := storeRows_eq_ok hrows
  have hcallers : c'.ask (·.callers v) = .ok ((ns.filter fun n => Mentioned v n.calls).map (·.id)) := by
    rw [Connection.ask_of_isOpen hopen, hview]
    refine congrArg _ (map_filter_rows hstored fun n hn r hr => ⟨?_, NodeRow.id_of_ofNode? hr⟩)
    have hcalls : r.calls = joinNames n.calls := by rw [(NodeRow.ofNode?_eq_ok_iff.mp hr).2.2.2.2]
    rw [hcalls, Bool.eq_iff_iff, decide_eq_true_iff]
    exact mentions_joinNames_iff hv hnul fun w hw => hcomma n hn w (List.mem_append_left _ hw)
  have hsubclasses : c'.ask (·.subclasses v) =
      .ok ((ns.filter fun n => n.kind = some "class" ∧ Mentioned v n.bases).map Node.reloaded) := by
    rw [Connection.ask_of_isOpen hopen, hview]
    refine congrArg _ (map_filter_rows hstored fun n hn r hr => ⟨?_, NodeRow.toNode_of_ofNode? hr⟩)
    have hbases : r.bases = joinNames n.bases := by rw [(NodeRow.ofNode?_eq_ok_iff.mp hr).2.2.2.2]
    rw [hbases, Bool.eq_iff_iff, Bool.and_eq_true, decide_eq_true_iff, NodeRow.kind_of_ofNode? hr, beq_iff_eq,
      Option.some_inj, mentions_joinNames_iff hv hnul fun w hw => hcomma n hn w (List.mem_append_right _ hw)]
  -- with plain names, to be mentioned is to be in the list
  refine ⟨hcallers, hsubclasses, fun hplain => ?_, fun hplain => ?_, fun n hn => Node.reloaded_eq_bare (hcomma n hn)⟩
  · rw [hcallers, List.filter_congr fun n hn => decide_eq_decide.mpr (mentioned_iff_mem (hplain n hn))]
  · rw [hsubclasses, List.filter_congr fun n hn =>
      decide_eq_decide.mpr (and_congr_right fun _ => mentioned_iff_mem (hplain n hn))]

/-- Two functions call `Foo`, one of them among others. A query for `foo` finds the one that calls others, though
neither calls `foo`; queries for `Foo` and `bar` find exactly the functions that call them. -/
theorem callers_of_other_spelling :
    let node := fun (id : String) (calls : List String) =>
      (some id, ({ id := some id, name := some id, kind := some "function", calls := calls } : Node))
    let g : Graph := ⟨[node "a" ["Foo", "bar"], node "b" ["Foo"]]⟩
    ∃ c : Connection Float, ({} : Connection Float).saveGraph g = (.ok (), c) ∧
      c.ask (·.callers "foo") = .ok [some "a"] ∧ (∀ n ∈ g.nodes.map (·.2), "foo" ∉ n.calls) ∧
      c.ask (·.callers "Foo") = .ok [some "a", some "b"] ∧ c.ask (·.callers "bar") = .ok [some "a"] := by
  intro node g
  have hsave : ({} : Connection Float).saveGraph g = (.ok (), (({} : Connection Float).saveGraph g).2) := rfl
  have hcomma : ∀ n ∈ g.nodes.map (·.2), ∀ w ∈ n.calls ++ n.bases, ',' ∉ w.toList := by decide +kernel
  have hask := fun {v : String} (hv : ',' ∉ v.toList) (hnul : '\x00' ∉ v.toList) =>
    callers_subclasses_saved hsave hcomma hv hnul
  refine ⟨_, hsave, ?_, by decide +kernel, ?_, ?_⟩
  · exact (hask (v := "foo") (by decide) (by decide)).1.trans (congrArg _ (by decide +kernel))
  · exact ((hask (v := "Foo") (by decide) (by decide)).2.2.1 (by decide +kernel)).trans (congrArg _ (by decide +kernel))
  · exact ((hask (v := "bar") (by decide) (by decide)).2.2.1 (by decide +kernel)).trans (congrArg _ (by decide +kernel))

end CodeAtlas
