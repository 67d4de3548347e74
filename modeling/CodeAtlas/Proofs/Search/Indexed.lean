import Mathlib
import CodeAtlas.Proofs.Store.Saved
import CodeAtlas.Project.Index

/-!
# What the search tables hold

A row of the table of nodes is found by its terms if the table of terms has all of them for it, and each of them has a
rarity. After the index was built, all searched rows are found. After empty search tables were brought up to date for
some identifiers, exactly the searched rows with these identifiers are found, and rows without terms.

## Main definitions

* `Tables.Finds`: a row is found by its terms
* `Tables.SearchComplete`: all searched rows are found
* `Session.freshRarities`: the rarities that documents bring to an index without terms

## Main results

* `Session.searchComplete_build`: after the index was built, all searched rows are found
* `updateIndex_of_empty`: the tables after empty search tables were brought up to date
* `Tables.Tidy.finds_iff`: which rows tables with the terms of some rows find
-/

namespace CodeAtlas

open Store Search

/-! ## Documents and their terms -/

namespace Search

theorem mem_of_mem_putDocument {d e : Document} {ds : List Document} (h : e ∈ putDocument d ds) : e = d ∨ e ∈ ds := by
  induction ds with
  | nil => exact Or.inl (List.mem_singleton.mp h)
  | cons first rest ih =>
    rw [putDocument] at h
    split at h
    · rcases List.mem_cons.mp h with rfl | h
      · exact Or.inl rfl
      · exact Or.inr (List.mem_cons_of_mem _ h)
    · rcases List.mem_cons.mp h with rfl | h
      · exact Or.inr List.mem_cons_self
      · exact (ih h).imp_right (List.mem_cons_of_mem _)

theorem mem_putDocument_self (d : Document) (ds : List Document) : d ∈ putDocument d ds := by
  induction ds with
  | nil => exact List.mem_cons_self
  | cons first rest ih =>
    rw [putDocument]
    split
    · exact List.mem_cons_self
    · exact List.mem_cons_of_mem _ ih

theorem exists_mem_putDocument {d e : Document} {ds : List Document} (h : e ∈ ds) :
    ∃ e' ∈ putDocument d ds, e'.id = e.id := by
  induction ds with
  | nil => cases h
  | cons first rest ih =>
    rw [putDocument]
    split
    · next heq =>
      rcases List.mem_cons.mp h with rfl | h
      · exact ⟨d, List.mem_cons_self, heq.symm⟩
      · exact ⟨e, List.mem_cons_of_mem _ h, rfl⟩
    · rcases List.mem_cons.mp h with rfl | h
      · exact ⟨e, List.mem_cons_self, rfl⟩
      · obtain ⟨e', he', hid⟩ := ih h
        exact ⟨e', List.mem_cons_of_mem _ he', hid⟩

theorem mem_of_mem_foldl_putDocument {ds acc : List Document} {e : Document}
    (h : e ∈ ds.foldl (fun ds d => putDocument d ds) acc) : e ∈ acc ∨ e ∈ ds := by
  induction ds generalizing acc with
  | nil => exact Or.inl h
  | cons d rest ih =>
    rcases ih h with h | h
    · rcases mem_of_mem_putDocument h with rfl | h
      · exact Or.inr List.mem_cons_self
      · exact Or.inl h
    · exact Or.inr (List.mem_cons_of_mem _ h)

theorem exists_mem_foldl_putDocument {ds acc : List Document} {e : Document} (h : e ∈ acc ∨ e ∈ ds) :
    ∃ e' ∈ ds.foldl (fun ds d => putDocument d ds) acc, e'.id = e.id := by
  induction ds generalizing acc e with
  | nil => exact ⟨e, h.resolve_right List.not_mem_nil, rfl⟩
  | cons d rest ih =>
    rcases h with h | h
    · obtain ⟨e₁, he₁, hid₁⟩ := exists_mem_putDocument (d := d) h
      obtain ⟨e₂, he₂, hid₂⟩ := ih (Or.inl he₁)
      exact ⟨e₂, he₂, hid₂.trans hid₁⟩
    · rcases List.mem_cons.mp h with rfl | h
      · exact ih (Or.inl (mem_putDocument_self e acc))
      · exact ih (Or.inr h)

theorem nodup_eraseDups {α : Type} [BEq α] [LawfulBEq α] (xs : List α) : xs.eraseDups.Nodup := by
  -- what follows the first element is a list without it, so the induction is on the length
  induction h : xs.length using Nat.strong_induction_on generalizing xs with
  | _ n ih =>
    cases xs with
    | nil => simp
    | cons x rest =>
      rw [List.eraseDups_cons, List.nodup_cons, List.mem_eraseDups]
      refine ⟨by simp, ih _ ?_ _ rfl⟩
      rw [← h, List.length_cons]
      exact Nat.lt_succ_of_le (List.length_filter_le _ _)

theorem mem_allTerms {ds : List Document} {term : String} : term ∈ allTerms ds ↔ ∃ d ∈ ds, term ∈ d.terms := by
  rw [allTerms, List.mem_eraseDups, List.mem_flatMap]

variable {R : Type} [Scalar R]

theorem exists_mem_rows {d : Document} {term : String} :
    (∃ x ∈ (d.rows : List (TermRow R)), x.term = term) ↔ term ∈ d.terms := by
  simp [Document.rows, termWeights, termCounts]

theorem node_of_mem_rows {d : Document} {x : TermRow R} (h : x ∈ d.rows) : x.node = d.id := by
  obtain ⟨⟨term, weight⟩, -, rfl⟩ := List.mem_map.mp h
  rfl

theorem map_fst_rarityTable (ds : List Document) : (rarityTable ds : List (String × R)).map (·.1) = allTerms ds := by
  simp [rarityTable, Function.comp_def]

end Search

/-! ## Rows that are found -/

namespace Store.Tables

variable {R : Type} {t : Tables R}

/-- A row is found by its terms: the table of terms has all of them for it, and each of them has a rarity. -/
def Finds (t : Tables R) (r : NodeRow) : Prop :=
  ∀ term ∈ (Document.ofRow r).terms,
    (∃ x ∈ t.terms, x.node = r.id ∧ x.term = term) ∧ term ∈ t.rarity.map (·.1)

/-- All searched rows are found. -/
def SearchComplete (t : Tables R) : Prop :=
  ∀ r ∈ t.nodes, r.isSearchable = true → t.Finds r

theorem mem_searchable {r : NodeRow} : r ∈ t.searchable ↔ r ∈ t.nodes ∧ r.isSearchable = true := by
  simp only [searchable, List.mem_flatMap, List.mem_filter, beq_iff_eq, NodeRow.isSearchable, List.contains_iff_mem]
  constructor
  · rintro ⟨kind, hkind, hr, rfl⟩
    exact ⟨hr, hkind⟩
  · rintro ⟨hr, hkind⟩
    exact ⟨r.kind, hkind, hr, rfl⟩

theorem chosenRows_nil (t : Tables R) : chosenRows t [] = [] := by
  simp [chosenRows]

theorem mem_chosenRows {t : Tables R} {ids : List NodeId} {r : NodeRow} :
    r ∈ chosenRows t ids ↔ r ∈ t.nodes ∧ r.isSearchable = true ∧ r.id.isSome = true ∧ r.id ∈ ids := by
  have hchosen : r ∈ t.searchable.filter (fun r => r.id.isSome && ids.contains r.id) ↔
      r ∈ t.nodes ∧ r.isSearchable = true ∧ r.id.isSome = true ∧ r.id ∈ ids := by
    rw [List.mem_filter, mem_searchable, Bool.and_eq_true, List.contains_iff_mem, and_assoc]
  unfold chosenRows
  split
  · rw [List.mem_mergeSort, hchosen]
  · exact hchosen

theorem dropTerms_of_nil {t : Tables R} (h : t.terms = []) (ids : List NodeId) : t.dropTerms ids = t := by
  cases t
  simp only at h
  simp [dropTerms, h]

/-- Rarities of new terms are put one after the other at the end of the table. -/
theorem rarity_foldl_putRarity (values : List (String × R)) {t : Tables R}
    (h : (t.rarity.map (·.1) ++ values.map (·.1)).Nodup) :
    (values.foldl (fun t (term, x) => t.putRarity term x) t).rarity = t.rarity ++ values := by
  induction values generalizing t with
  | nil => simp
  | cons value rest ih =>
    obtain ⟨term, x⟩ := value
    have hnew : term ∉ t.rarity.map (·.1) := fun hm =>
      List.disjoint_of_nodup_append h hm (by simp)
    have hput : (t.putRarity term x).rarity = t.rarity ++ [(term, x)] := by
      have hsame : t.rarity.filter (·.1 != term) = t.rarity := by
        refine List.filter_eq_self.mpr fun entry hm => ?_
        simpa using fun heq : entry.1 = term => hnew (heq ▸ List.mem_map_of_mem hm)
      simp [putRarity, putLast, hsame]
    have hrest : ((t.putRarity term x).rarity.map (·.1) ++ rest.map (·.1)).Nodup := by
      rw [hput]
      simpa using h
    rw [List.foldl_cons, ih hrest, hput]
    simp

theorem foldl_putRarity_eq (values : List (String × R)) (t : Tables R) :
    values.foldl (fun t (term, x) => t.putRarity term x) t =
      { t with rarity := (values.foldl (fun t (term, x) => t.putRarity term x) t).rarity } := by
  induction values generalizing t with
  | nil => rfl
  | cons value rest ih =>
    rw [List.foldl_cons, ih]
    rfl

variable [Scalar R]

/-- The terms of some rows of a tidy table are those of the rows. -/
theorem Tidy.mem_termRows (h : t.Tidy) {rows : List NodeRow} (hrows : ∀ r ∈ rows, r ∈ t.nodes) {r : NodeRow}
    (hr : r ∈ t.nodes) {term : String} :
    (∃ x ∈ (termRows (rows.map Document.ofRow) : List (TermRow R)), x.node = r.id ∧ x.term = term) ↔
      r ∈ rows ∧ term ∈ (Document.ofRow r).terms := by
  -- of the documents with one identifier the last is kept, and here there is one only
  have hsame : ∀ r' ∈ rows, r'.id = r.id → r' = r := fun r' hr' hid =>
    List.inj_on_of_nodup_map h.distinct (hrows r' hr') hr hid
  simp only [termRows, onePerId, List.mem_flatMap]
  constructor
  · rintro ⟨x, ⟨d, hd, hx⟩, hnode, hterm⟩
    have hdoc := (mem_of_mem_foldl_putDocument hd).resolve_left List.not_mem_nil
    obtain ⟨r', hr', rfl⟩ := List.mem_map.mp hdoc
    obtain rfl := hsame r' hr' ((node_of_mem_rows hx).symm.trans hnode)
    exact ⟨hr', exists_mem_rows.mp ⟨x, hx, hterm⟩⟩
  · rintro ⟨hr', hterm⟩
    obtain ⟨d, hd, hid⟩ := exists_mem_foldl_putDocument
      (Or.inr (List.mem_map.mpr ⟨r, hr', rfl⟩) : Document.ofRow r ∈ [] ∨ _)
    have hdoc := (mem_of_mem_foldl_putDocument hd).resolve_left List.not_mem_nil
    obtain ⟨r', hr'', rfl⟩ := List.mem_map.mp hdoc
    obtain rfl := hsame r' hr'' hid
    obtain ⟨x, hx, hxterm⟩ := (exists_mem_rows (R := R)).mpr hterm
    exact ⟨x, ⟨_, hd, hx⟩, node_of_mem_rows hx, hxterm⟩

/-- Tables with the terms of some rows and with rarities for these terms find exactly these rows, and rows without
terms. -/
theorem Tidy.finds_iff (h : t.Tidy) {rows : List NodeRow} (hrows : ∀ r ∈ rows, r ∈ t.nodes)
    (hterms : t.terms = termRows (rows.map Document.ofRow))
    (hrarity : ∀ term, term ∈ t.rarity.map (·.1) ↔ term ∈ allTerms (rows.map Document.ofRow)) {r : NodeRow}
    (hr : r ∈ t.nodes) : t.Finds r ↔ ((Document.ofRow r).terms ≠ [] → r ∈ rows) := by
  unfold Finds
  rw [hterms]
  constructor
  · intro hfinds hne
    obtain ⟨term, hterm⟩ := List.exists_mem_of_ne_nil _ hne
    exact ((h.mem_termRows hrows hr).mp (hfinds term hterm).1).1
  · intro hmem term hterm
    have hr' := hmem (List.ne_nil_of_mem hterm)
    refine ⟨(h.mem_termRows hrows hr).mpr ⟨hr', hterm⟩, ?_⟩
    rw [hrarity, mem_allTerms]
    exact ⟨_, List.mem_map.mpr ⟨r, hr', rfl⟩, hterm⟩

end Store.Tables

namespace Search.Session

variable {R : Type}

/-! ## Removing from the index -/

/-- Removing some identifiers from empty search tables changes nothing. -/
theorem remove_of_empty {c : Connection R} (hopen : c.isOpen = true) (hpending : c.pending = none)
    (hterms : c.committed.terms = []) (ids : List NodeId) :
    ∃ engine : Engine R, engine.rarity = [] ∧ (({ connection := c } : Session R).remove ids).2 = ⟨c, engine⟩ := by
  have hview : c.view = c.committed := by
    rw [Connection.view, hpending]
    rfl
  unfold remove
  split
  · exact ⟨{}, rfl, rfl⟩
  simp only [hopen, Bool.not_true, Bool.false_eq_true, if_false]
  split
  · exact ⟨_, rfl, rfl⟩
  · refine ⟨Engine.forget {}, rfl, ?_⟩
    obtain ⟨committed, pending, isOpen, limits⟩ := c
    simp only at hpending hopen hterms hview
    simp [Connection.write, Connection.commit, Connection.view, hpending, hopen, Tables.dropTerms_of_nil hterms]

/-! ## Building the index -/

variable [Scalar R]

/-- The tables with the search index of all their searched rows. -/
def builtTables (t : Tables R) : Tables R :=
  { t with
    terms := termRows (t.searchable.map Document.ofRow)
    rarity := rarityTable (t.searchable.map Document.ofRow) }

theorem build_eq {c : Connection R} (hopen : c.isOpen = true) (hpending : c.pending = none) :
    (({ connection := c } : Session R).build).1 = .ok () ∧
      (({ connection := c } : Session R).build).2.close = builtTables c.committed := by
  have hview : c.view = c.committed := by
    rw [Connection.view, hpending]
    rfl
  unfold build
  simp only [hopen, if_true, true_and]
  rw [hview, close, Connection.close, Connection.rollback, Connection.commit, Connection.write]
  simp only [Connection.view, hpending, Option.getD_some, Option.getD_none]
  rfl

/-- **After the index was built, all searched rows are found.** -/
theorem searchComplete_build {t : Tables R} (h : t.Tidy) : (builtTables t).SearchComplete := by
  intro r hr hsearch
  have htidy : (builtTables t).Tidy := ⟨h.distinct, h.present, h.stable⟩
  refine (htidy.finds_iff (fun r hr => (Tables.mem_searchable.mp hr).1) rfl (fun term => ?_) hr).mpr fun _ =>
    Tables.mem_searchable.mpr ⟨hr, hsearch⟩
  rw [builtTables, map_fst_rarityTable]
  rfl

/-! ## Bringing the index up to date -/

/-- The rarities that documents bring to an index without terms, when the number of nodes has changed to `total` by
`delta`. -/
def freshRarities (ds : List Document) (total delta : Int) : List (String × R) :=
  (allTerms ds).map fun term => (term, rarity total (if needsRecount total delta then documentCount ds term else 1))

theorem map_fst_freshRarities (ds : List Document) (total delta : Int) :
    (freshRarities ds total delta : List (String × R)).map (·.1) = allTerms ds := by
  simp [freshRarities, Function.comp_def]

theorem nodup_map_fst_freshRarities (ds : List Document) (total delta : Int) :
    ((freshRarities ds total delta : List (String × R)).map (·.1)).Nodup := by
  rw [map_fst_freshRarities]
  exact nodup_eraseDups _

/-- An engine that knows no rarities, on an index without terms, computes all of them, unless the number of nodes is
taken to be negative. -/
theorem newRarities_of_empty (ds : List Document) (delta : Int) {e : Engine R} (he : e.rarity = []) {t : Tables R}
    (ht : t.terms = []) :
    newRarities ds delta e t = .ok (freshRarities ds e.total delta) ∨
      newRarities ds delta e t = .error .logarithmDomain ∧ e.total + 1 ≤ 0 := by
  have hcount : ∀ term, indexedCount t term = 0 := by
    intro term
    rw [indexedCount, ht]
    rfl
  unfold newRarities freshRarities
  simp only [he, List.any_nil, Bool.not_false, List.filter_true, hcount]
  cases needsRecount e.total delta with
  | true => exact Or.inl (by simp)
  | false =>
    simp only [Bool.false_eq_true, if_false]
    cases allTerms ds with
    | nil => exact Or.inl rfl
    | cons term terms =>
      by_cases htotal : e.total + 1 ≤ 0
      · exact Or.inr ⟨by simp [htotal], htotal⟩
      · exact Or.inl (by simp [htotal])

/-- Bringing the index up to date, from empty search tables, changes the search tables only. If all goes well, the
terms and rarities are those of the chosen rows; it fails for too many identifiers, or if the number of nodes is taken to
be negative. -/
theorem update_of_empty {c : Connection R} (hopen : c.isOpen = true) (hpending : c.pending = none)
    (hterms : c.committed.terms = []) (hrarity : c.committed.rarity = []) {engine : Engine R}
    (hengine : engine.rarity = []) (ids : List NodeId) (delta : Int) :
    (((⟨c, engine⟩ : Session R).update ids delta).1 = .ok () ∧
        ((⟨c, engine⟩ : Session R).update ids delta).2.close =
          { c.committed with
            terms := termRows ((chosenRows c.committed ids).map Document.ofRow)
            rarity := freshRarities ((chosenRows c.committed ids).map Document.ofRow)
              (c.committed.searchable.length + delta) delta }) ∨
      ∃ f, ((⟨c, engine⟩ : Session R).update ids delta).1 = .error f ∧
        ((⟨c, engine⟩ : Session R).update ids delta).2.close = c.committed ∧
        (f = .tooManyVariables ∨
          f = .logarithmDomain ∧ (c.committed.searchable.length : Int) + delta + 1 ≤ 0) := by
  obtain ⟨committed, pending, isOpen, limits⟩ := c
  simp only at hopen hpending hterms hrarity
  subst hopen hpending
  have hsame : ({ committed with terms := [], rarity := [] } : Tables R) = committed := by
    cases committed
    simp only at hterms hrarity
    rw [hterms, hrarity]
  unfold update
  by_cases hids : ids = []
  · -- there is nothing to do
    subst hids
    refine Or.inl ⟨rfl, ?_⟩
    rw [Tables.chosenRows_nil]
    exact hsame.symm
  have hempty : ids.isEmpty = false := by simpa [List.isEmpty_iff] using hids
  simp only [hempty, Bool.false_eq_true, if_false, Bool.not_true]
  split
  · -- there are too many identifiers
    exact Or.inr ⟨_, rfl, rfl, Or.inl rfl⟩
  have hdropped : (Connection.mk committed none true limits).write (·.dropTerms ids) =
      ⟨committed, some committed, true, limits⟩ := by
    simp [Connection.write, Connection.view, Tables.dropTerms_of_nil hterms]
  have hload : ((engine.forget).load committed).rarity = [] := by
    simp [Engine.load, Engine.forget, hengine, hrarity, putAll]
  simp only [hdropped, Connection.view, Option.getD_some]
  split
  · -- no searched row has one of the identifiers
    next hnone =>
    rw [List.isEmpty_iff] at hnone
    refine Or.inl ⟨rfl, ?_⟩
    rw [hnone]
    exact hsame.symm
  have hforget : engine.forget.rarity.isEmpty = true := by
    rw [Engine.forget, hengine]
    rfl
  simp only [hforget, if_true]
  rcases newRarities_of_empty ((chosenRows committed ids).map Document.ofRow) delta
    (e := { (engine.forget).load committed with total := ((engine.forget).load committed).total + delta }) hload
    hterms with hok | ⟨herror, htotal⟩
  · rw [hok]
    refine Or.inl ⟨rfl, ?_⟩
    have hvalues := Tables.rarity_foldl_putRarity (t := committed) (freshRarities
      ((chosenRows committed ids).map Document.ofRow) (committed.searchable.length + delta) delta)
      (by rw [hrarity]; exact nodup_map_fst_freshRarities _ _ _)
    rw [hrarity, List.nil_append] at hvalues
    simp only [learn, close, Connection.close, Connection.rollback, Connection.commit, Connection.write,
      Connection.view, Option.getD_some, Engine.load]
    rw [Tables.foldl_putRarity_eq, hvalues]
    simp [hterms]
  · -- the rarities are not defined, and closing the connection undoes what was written
    rw [herror]
    exact Or.inr ⟨_, rfl, rfl, Or.inr ⟨rfl, htotal⟩⟩

end Search.Session

/-- Bringing the index up to date, from empty search tables, changes the search tables only. If all goes well, the
terms and rarities are those of the searched rows with the changed identifiers; it fails for too many identifiers, or if
the number of nodes is taken to be negative. -/
theorem updateIndex_of_empty {R : Type} [Scalar R] {c : Connection R} (hopen : c.isOpen = true)
    (hpending : c.pending = none) (hterms : c.committed.terms = []) (hrarity : c.committed.rarity = [])
    (removed changed : List NodeId) (delta : Int) :
    ((updateIndex removed changed delta c).1 = .ok () ∧
        (updateIndex removed changed delta c).2.close =
          { c.committed with
            terms := termRows ((chosenRows c.committed changed).map Document.ofRow)
            rarity := Session.freshRarities ((chosenRows c.committed changed).map Document.ofRow)
              (c.committed.searchable.length + delta) delta }) ∨
      ∃ f, (updateIndex removed changed delta c).1 = .error f ∧
        (updateIndex removed changed delta c).2.close = c.committed ∧
        (f = .tooManyVariables ∨
          f = .logarithmDomain ∧ (c.committed.searchable.length : Int) + delta + 1 ≤ 0) := by
  obtain ⟨engine, hengine, hsession⟩ := Session.remove_of_empty hopen hpending hterms removed
  unfold updateIndex
  split
  · next f s hremove =>
    have hf : f = .tooManyVariables := by
      unfold Session.remove at hremove
      simp only [hopen, Bool.not_true, Bool.false_eq_true, if_false] at hremove
      split at hremove
      · cases hremove
      split at hremove
      · exact (Except.error.inj (Prod.mk.inj hremove).1).symm
      · cases hremove
    rw [hremove] at hsession
    rw [show s = ⟨c, engine⟩ from hsession]
    exact Or.inr ⟨f, rfl, rfl, Or.inl hf⟩
  · next s hremove =>
    rw [hremove] at hsession
    rw [show s = ⟨c, engine⟩ from hsession]
    exact Session.update_of_empty hopen hpending hterms hrarity hengine changed delta

end CodeAtlas
