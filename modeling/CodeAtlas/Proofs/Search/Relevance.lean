import Mathlib
import CodeAtlas.Proofs.Search.Contents
import CodeAtlas.Proofs.Search.Exact
import CodeAtlas.Proofs.Search.Measured

/-!
# What a search finds

The relevance of a row for a query adds up, for each different term of the query that the row has, how frequent the term
is in the row, times how rare it is among all rows; it is taken in proportion to the greatest rarity of all, for each term
of the query. After the index was built, a search finds the rows that share a term with the query, the most relevant
first, in real numbers, as long as all these rows have identifiers.

A row without identifier is counted with the others, and takes a place among the best, but it is never found.

## Main definitions

* `NodeRow.tokens`, `NodeRow.frequency`: the terms of a row, and how frequent they are
* `Tables.inverseFrequency`: how rare a term is
* `Tables.matching`, `Tables.relevance`: the rows that share a term with a query, and their relevance
* `hits`: what a search adds to the scores

## Main results

* `scores_eq_foldl_hits`, `mem_scores_iff`: scores are sums of hits
* `scores_builtTables_perm`: the scores of a search in a built index
* `search_built_eq_ranking`: what a search finds after the index was built
-/

namespace CodeAtlas

open Store Search

/-! ## Scores are sums -/

namespace Search

section Hits

variable {R : Type} [Scalar R]

/-- What a search adds to the scores of nodes, in its order. -/
def hits (t : Tables R) (weights : List (String × R)) : List (NodeId × R) :=
  ((weights.map (·.1)).eraseDups.mergeSort fun a b => a ≤ b).flatMap fun term =>
    (weights.lookup term).elim [] fun w =>
      (t.terms.filter (·.term == term)).map fun r => (r.node, Scalar.mul r.weight w)

theorem scores_eq_foldl_hits (t : Tables R) (weights : List (String × R)) :
    scores t weights = (hits t weights).foldl (fun entries hit => addScore hit.1 hit.2 entries) [] := by
  rw [scores, hits, List.foldl_flatMap]
  refine congrArg (List.foldl · [] _) (funext fun entries => funext fun term => ?_)
  cases weights.lookup term with
  | none => rfl
  | some w => simp only [Option.elim_some, List.foldl_map]

theorem map_fst_addScore (node : NodeId) (amount : R) (entries : List (NodeId × R)) :
    (addScore node amount entries).map (·.1) =
      if node ∈ entries.map (·.1) then entries.map (·.1) else entries.map (·.1) ++ [node] := by
  induction entries with
  | nil => rfl
  | cons entry rest ih =>
    obtain ⟨n, s⟩ := entry
    rw [addScore]
    by_cases hn : n = node
    · simp [hn]
    · rw [if_neg hn, List.map_cons, ih]
      by_cases hrest : node ∈ rest.map (·.1)
      · simp [hrest]
      · simp [hrest, Ne.symm hn]

/-- The scores are those of the nodes that were hit, one for each. -/
theorem keys_foldl_addScore (found entries : List (NodeId × R))
    (hentries : (entries.map (·.1)).Nodup) :
    ((found.foldl (fun entries hit => addScore hit.1 hit.2 entries) entries).map (·.1)).Nodup ∧
      ∀ node, node ∈ (found.foldl (fun entries hit => addScore hit.1 hit.2 entries) entries).map (·.1) ↔
        node ∈ entries.map (·.1) ∨ node ∈ found.map (·.1) := by
  induction found generalizing entries with
  | nil => exact ⟨hentries, by simp⟩
  | cons hit rest ih =>
    have hkeys := map_fst_addScore hit.1 hit.2 entries
    have hnodup : ((addScore hit.1 hit.2 entries).map (·.1)).Nodup := by
      rw [hkeys]
      split
      · exact hentries
      · next hnew => exact List.Nodup.append hentries (List.nodup_singleton _) (by simpa using hnew)
    obtain ⟨hdistinct, hmem⟩ := ih _ hnodup
    refine ⟨hdistinct, fun node => ?_⟩
    rw [List.foldl_cons, hmem, hkeys]
    split
    · next hold =>
      simp only [List.map_cons, List.mem_cons]
      constructor
      · rintro (h | h)
        · exact Or.inl h
        · exact Or.inr (Or.inr h)
      · rintro (h | rfl | h)
        · exact Or.inl h
        · exact Or.inl hold
        · exact Or.inr h
    · simp only [List.map_cons, List.mem_cons, List.mem_append, List.not_mem_nil, or_false]
      tauto

theorem nodup_map_fst_scores (t : Tables R) (weights : List (String × R)) : ((scores t weights).map (·.1)).Nodup := by
  rw [scores_eq_foldl_hits]
  exact (keys_foldl_addScore (hits t weights) [] List.nodup_nil).1

end Hits

/-! ### In real numbers -/

/-- The sum of the amounts of a node. -/
noncomputable def amountOf (node : NodeId) (entries : List (NodeId × ℝ)) : ℝ :=
  ((entries.filter (·.1 == node)).map (·.2)).sum

@[simp] theorem amountOf_nil (node : NodeId) : amountOf node [] = 0 := rfl

theorem amountOf_cons (node : NodeId) (entry : NodeId × ℝ) (entries : List (NodeId × ℝ)) :
    amountOf node (entry :: entries) = (if entry.1 = node then entry.2 else 0) + amountOf node entries := by
  by_cases h : entry.1 = node <;> simp [amountOf, h]

theorem amountOf_append (node : NodeId) (xs ys : List (NodeId × ℝ)) :
    amountOf node (xs ++ ys) = amountOf node xs + amountOf node ys := by
  simp [amountOf]

theorem amountOf_flatMap {α : Type} (node : NodeId) (xs : List α) (f : α → List (NodeId × ℝ)) :
    amountOf node (xs.flatMap f) = (xs.map fun x => amountOf node (f x)).sum := by
  induction xs with
  | nil => rfl
  | cons x rest ih => rw [List.flatMap_cons, amountOf_append, ih, List.map_cons, List.sum_cons]

theorem amountOf_addScore (node hit : NodeId) (amount : ℝ) (entries : List (NodeId × ℝ)) :
    amountOf node (addScore hit amount entries) = amountOf node entries + if hit = node then amount else 0 := by
  induction entries with
  | nil => simp [addScore, amountOf_cons]
  | cons entry rest ih =>
    obtain ⟨n, s⟩ := entry
    rw [addScore]
    by_cases hn : n = hit
    · subst hn
      rw [if_pos rfl, amountOf_cons, amountOf_cons]
      change (if n = node then s + amount else 0) + _ = _
      by_cases hnode : n = node
      · simp only [if_pos hnode]
        ring
      · simp only [if_neg hnode]
        ring
    · rw [if_neg hn, amountOf_cons, ih, amountOf_cons]
      ring

theorem amountOf_foldl_addScore (node : NodeId) (found entries : List (NodeId × ℝ)) :
    amountOf node (found.foldl (fun entries hit => addScore hit.1 hit.2 entries) entries) =
      amountOf node entries + amountOf node found := by
  induction found generalizing entries with
  | nil => simp
  | cons hit rest ih =>
    rw [List.foldl_cons, ih, amountOf_addScore, amountOf_cons]
    ring

theorem mem_iff_amountOf {entries : List (NodeId × ℝ)} (h : (entries.map (·.1)).Nodup) {node : NodeId} {x : ℝ} :
    (node, x) ∈ entries ↔ node ∈ entries.map (·.1) ∧ x = amountOf node entries := by
  induction entries with
  | nil => simp
  | cons entry rest ih =>
    obtain ⟨n, s⟩ := entry
    obtain ⟨hn, hrest⟩ := List.nodup_cons.mp h
    rw [List.mem_cons, List.map_cons, List.mem_cons, amountOf_cons, ih hrest, Prod.mk.injEq]
    by_cases hnode : node = n
    · subst hnode
      have hzero : amountOf node rest = 0 := by
        have hnone : rest.filter (·.1 == node) = [] := by
          refine List.filter_eq_nil_iff.mpr fun entry hm => ?_
          simpa using fun heq : entry.1 = node => hn (List.mem_map.mpr ⟨entry, hm, heq⟩)
        rw [amountOf, hnone]
        rfl
      simp only at hn
      simp [hn, hzero]
    · simp [hnode, Ne.symm hnode]

/-- **Scores are sums of hits.** -/
theorem mem_scores_iff {t : Tables ℝ} {weights : List (String × ℝ)} {node : NodeId} {x : ℝ} :
    (node, x) ∈ scores t weights ↔ node ∈ (hits t weights).map (·.1) ∧ x = amountOf node (hits t weights) := by
  have hkeys := keys_foldl_addScore (hits t weights) [] List.nodup_nil
  rw [scores_eq_foldl_hits, mem_iff_amountOf hkeys.1, hkeys.2, amountOf_foldl_addScore]
  simp

end Search

/-! ## Relevance -/

namespace Store

/-- The terms of the text of a row. -/
@[irreducible] def NodeRow.tokens (r : NodeRow) : List String :=
  tokenize (searchableText (some r.name) r.signature r.docstring)

/-- How often a term occurs in a row, relative to the most frequent term. -/
noncomputable def NodeRow.frequency (r : NodeRow) (term : String) : ℝ :=
  r.tokens.count term / (r.tokens.toFinset.sup r.tokens.count : ℕ)

namespace Tables

variable {R : Type}

/-- How many rows are searched. -/
def searchedCount (t : Tables R) : ℕ :=
  t.nodes.countP (·.isSearchable)

/-- How many rows that are searched have a term. -/
def countWith (t : Tables R) (term : String) : ℕ :=
  t.nodes.countP fun r => r.isSearchable && r.tokens.contains term

/-- How rare a term is among the rows. -/
noncomputable def inverseFrequency (t : Tables R) (term : String) : ℝ :=
  Real.log ((t.searchedCount + 1) / (t.countWith term + 1)) + 1

/-- The terms of all rows that are searched. -/
def vocabulary (t : Tables R) : Set String :=
  {term | ∃ r ∈ t.nodes, r.isSearchable = true ∧ term ∈ r.tokens}

/-- The greatest rarity of a term. -/
noncomputable def greatestInverse (t : Tables R) : ℝ :=
  sSup (t.inverseFrequency '' t.vocabulary)

/-- The rows that share a term with a query. -/
def matching (t : Tables R) (terms : List String) : List NodeRow :=
  t.nodes.filter fun r => r.isSearchable && terms.any fun term => r.tokens.contains term

/-- The sum that relevance is made of. -/
noncomputable def rawRelevance (t : Tables R) (terms : List String) (r : NodeRow) : ℝ :=
  ∑ term ∈ terms.toFinset with term ∈ r.tokens, r.frequency term * t.inverseFrequency term

/-- The relevance of a row for the terms of a query. -/
noncomputable def relevance (t : Tables R) (terms : List String) (r : NodeRow) : ℝ :=
  t.rawRelevance terms r / (terms.length * t.greatestInverse)

variable {t : Tables R} {terms : List String} {r : NodeRow} {term : String}

theorem mem_matching : r ∈ t.matching terms ↔ r ∈ t.nodes ∧ r.isSearchable = true ∧ ∃ term ∈ terms, term ∈ r.tokens := by
  simp [matching]

theorem countWith_le_searchedCount (t : Tables R) (term : String) : t.countWith term ≤ t.searchedCount := by
  refine List.countP_mono_left fun r _ h => ?_
  exact (Bool.and_eq_true_iff.mp h).1

/-- The rarity of a term is at least one. -/
theorem one_le_inverseFrequency (t : Tables R) (term : String) : 1 ≤ t.inverseFrequency term := by
  have hpos : (0 : ℝ) < t.countWith term + 1 := by positivity
  have hle : (t.countWith term : ℝ) + 1 ≤ t.searchedCount + 1 := by
    exact_mod_cast Nat.succ_le_succ (t.countWith_le_searchedCount term)
  have hlog := Real.log_nonneg ((one_le_div hpos).mpr hle)
  unfold inverseFrequency
  linarith

end Tables

/-- The relative frequency of a term is at most one. -/
theorem NodeRow.frequency_le_one (r : NodeRow) (term : String) : r.frequency term ≤ 1 := by
  unfold frequency
  refine div_le_one_of_le₀ ?_ (Nat.cast_nonneg _)
  by_cases hmem : term ∈ r.tokens
  · exact_mod_cast Finset.le_sup (f := fun term => r.tokens.count term) (List.mem_toFinset.mpr hmem)
  · rw [List.count_eq_zero_of_not_mem hmem]
    exact_mod_cast Nat.zero_le _

end Store

/-! ## The index in terms of rows -/

section Built

variable {t : Tables ℝ} {terms : List String} {r : NodeRow} {term : String}

theorem terms_ofRow_eq_tokens (r : NodeRow) : (Document.ofRow r).terms = r.tokens := by
  rw [Document.terms_ofRow, NodeRow.tokens]

/-- The weight of a term of a row is its relative frequency. -/
theorem weight_ofRow (hterm : term ∈ r.tokens) : (Document.ofRow r).weight term = r.frequency term := by
  obtain ⟨most, hmost, hle, hgreatest⟩ := exists_most_frequent (List.ne_nil_of_mem hterm)
  -- both take the number of occurrences of a most frequent term
  have hsup : r.tokens.toFinset.sup r.tokens.count = r.tokens.count most :=
    le_antisymm (Finset.sup_le fun other _ => hle other)
      (Finset.le_sup (f := fun term => r.tokens.count term) (List.mem_toFinset.mpr hmost))
  rw [Document.weight, terms_ofRow_eq_tokens, hgreatest, NodeRow.frequency, hsup]
  change (((r.tokens.count term : ℕ) : ℤ) : ℝ) / (((r.tokens.count most : ℕ) : ℤ) : ℝ) = _
  push_cast
  rfl

theorem length_searchable (t : Tables ℝ) : t.searchable.length = t.searchedCount := by
  rw [t.searchable_perm_filter.length_eq, Tables.searchedCount, List.countP_eq_length_filter]

theorem documentCount_searchable (t : Tables ℝ) (term : String) :
    documentCount (t.searchable.map Document.ofRow) term = t.countWith term := by
  rw [documentCount, List.countP_map, t.searchable_perm_filter.countP_eq, List.countP_filter, Tables.countWith]
  refine List.countP_congr fun r _ => ?_
  rw [Function.comp_apply, terms_ofRow_eq_tokens, Bool.and_comm]

theorem mem_allTerms_searchable : term ∈ allTerms (t.searchable.map Document.ofRow) ↔ term ∈ t.vocabulary := by
  rw [mem_allTerms]
  constructor
  · rintro ⟨d, hd, hterm⟩
    obtain ⟨r, hr, rfl⟩ := List.mem_map.mp hd
    obtain ⟨hr, hsearch⟩ := Tables.mem_searchable.mp hr
    exact ⟨r, hr, hsearch, terms_ofRow_eq_tokens r ▸ hterm⟩
  · rintro ⟨r, hr, hsearch, hterm⟩
    rw [← terms_ofRow_eq_tokens] at hterm
    exact ⟨_, List.mem_map_of_mem (Tables.mem_searchable.mpr ⟨hr, hsearch⟩), hterm⟩

theorem rarity_real (total found : ℤ) : (rarity total found : ℝ) = Real.log ((total + 1) / (found + 1)) + 1 := by
  change Real.log (((total + 1 : ℤ) : ℝ) / ((found + 1 : ℤ) : ℝ)) + (Scalar.one : ℝ) = _
  rw [one_real]
  push_cast
  rfl

/-- The rarities of a built index. -/
theorem rarity_builtTables (t : Tables ℝ) :
    (Session.builtTables t).rarity =
      (allTerms (t.searchable.map Document.ofRow)).map fun term => (term, t.inverseFrequency term) := by
  refine List.map_congr_left fun term _ => ?_
  rw [List.length_map, length_searchable, documentCount_searchable, rarity_real, Tables.inverseFrequency]
  rfl

theorem lookup_map_self (f : String → ℝ) (keys : List String) (key : String) :
    (keys.map fun k => (k, f k)).lookup key = if key ∈ keys then some (f key) else none := by
  induction keys with
  | nil => rfl
  | cons k rest ih =>
    rw [List.map_cons, List.lookup_cons, ih]
    by_cases hk : key = k
    · simp [hk]
    · rw [beq_eq_false_iff_ne.mpr hk]
      simp [hk]

theorem inverseFrequency_le_greatestInverse (hterm : term ∈ t.vocabulary) :
    t.inverseFrequency term ≤ t.greatestInverse ∧ greatest (Session.builtTables t).rarity = t.greatestInverse := by
  have hvalues : ∀ x, x ∈ (Session.builtTables t).rarity.map (·.2) ↔ x ∈ t.inverseFrequency '' t.vocabulary := by
    intro x
    simp [rarity_builtTables, mem_allTerms_searchable]
  have hne : (Session.builtTables t).rarity ≠ [] := by
    rw [rarity_builtTables]
    simpa using List.ne_nil_of_mem (mem_allTerms_searchable.mpr hterm)
  obtain ⟨hmem, hle⟩ := greatest_spec hne (linear_real _)
  have hgreatest : IsGreatest (t.inverseFrequency '' t.vocabulary) (greatest (Session.builtTables t).rarity) := by
    refine ⟨(hvalues _).mp hmem, fun x hx => ?_⟩
    have hnot := hle x ((hvalues x).mpr hx)
    rw [Bool.eq_false_iff, Ne, less_real_iff] at hnot
    exact not_lt.mp hnot
  have heq : greatest (Session.builtTables t).rarity = t.greatestInverse := hgreatest.csSup_eq.symm
  exact ⟨heq ▸ hgreatest.2 ⟨term, hterm, rfl⟩, heq⟩

/-- The terms of a query that are in the index, with their rarities. -/
theorem weigh_builtTables (t : Tables ℝ) (terms : List String) :
    weigh (Session.builtTables t).rarity terms =
      (terms.filter fun term => decide (term ∈ allTerms (t.searchable.map Document.ofRow))).map
        fun term => (term, t.inverseFrequency term) := by
  -- all rarities are positive, so no term of the index is left out
  have hpos : ∀ term, Scalar.less (Scalar.zero : ℝ) (t.inverseFrequency term) = true := by
    intro term
    rw [less_real_iff, zero_real]
    linarith [t.one_le_inverseFrequency term]
  unfold weigh
  induction terms with
  | nil => rfl
  | cons term rest ih =>
    rw [List.filterMap_cons, ih, rarity_builtTables, lookup_map_self]
    by_cases hterm : term ∈ allTerms (t.searchable.map Document.ofRow)
    · simp [hterm, Option.filter_some, hpos]
    · simp [hterm]

/-! ### Hits in a built index -/

theorem filter_id_of_mem {ds : List Document} (h : (ds.map (·.id)).Nodup) {d : Document} (hd : d ∈ ds) :
    ds.filter (·.id == d.id) = [d] := by
  induction ds with
  | nil => cases hd
  | cons e rest ih =>
    obtain ⟨he, hrest⟩ := List.nodup_cons.mp h
    rcases List.mem_cons.mp hd with rfl | hd
    · rw [List.filter_cons_of_pos (by simp), List.filter_eq_nil_iff.mpr]
      intro e hm
      simpa using fun heq : e.id = d.id => he (List.mem_map.mpr ⟨e, hm, heq⟩)
    · have hne : e.id ≠ d.id := fun heq => he (List.mem_map.mpr ⟨d, hd, heq.symm⟩)
      rw [List.filter_cons_of_neg (by simpa using hne), ih hrest hd]

/-- What one term adds to the score of a document that the index keeps. -/
theorem amountOf_term (h : t.Keyed) {d : Document} (hd : d ∈ keptDocuments (t.searchable.map Document.ofRow))
    (term : String) (w : ℝ) :
    amountOf d.id (((Session.builtTables t).terms.filter (·.term == term)).map fun x => (x.node, Scalar.mul x.weight w)) =
      if term ∈ d.terms then d.weight term * w else 0 := by
  have hkeys := nodup_filterMap_id_documents h
  have hperm : (((Session.builtTables t).terms.filter (·.term == term)).filter (·.node == d.id)).Perm
      (d.rows.filter (·.term == term)) := by
    rw [List.filter_comm]
    refine (((termRows_perm_kept hkeys).filter _).trans ?_).filter _
    rw [filter_node_flatMap_rows _ (· == d.id), filter_id_of_mem (nodup_map_id_keptDocuments hkeys) hd]
    simp
  rw [amountOf, List.filter_map, List.map_map]
  change (((((Session.builtTables t).terms.filter (·.term == term)).filter (·.node == d.id)).map
    fun x => x.weight * w)).sum = _
  rw [(hperm.map _).sum_eq, Document.filter_term_rows]
  split <;> simp

/-- The terms that a search in a built index goes through. -/
theorem mem_sorted_terms {terms : List String} {term : String} :
    term ∈ ((weigh (Session.builtTables t).rarity terms).map (·.1)).eraseDups.mergeSort (fun a b => a ≤ b) ↔
      term ∈ terms ∧ term ∈ t.vocabulary := by
  rw [List.mem_mergeSort, List.mem_eraseDups, weigh_builtTables, List.map_map]
  simp [mem_allTerms_searchable]

/-- The hits of a search in a built index, with the rarities of its terms. -/
theorem hits_builtTables (t : Tables ℝ) (terms : List String) :
    hits (Session.builtTables t) (weigh (Session.builtTables t).rarity terms) =
      (((weigh (Session.builtTables t).rarity terms).map (·.1)).eraseDups.mergeSort fun a b => a ≤ b).flatMap
        fun term => ((Session.builtTables t).terms.filter (·.term == term)).map
          fun x => (x.node, Scalar.mul x.weight (t.inverseFrequency term)) := by
  refine List.flatMap_congr fun term hterm => ?_
  obtain ⟨hmem, hknown⟩ := mem_sorted_terms.mp hterm
  have hfilter : term ∈ terms.filter fun term => decide (term ∈ allTerms (t.searchable.map Document.ofRow)) := by
    simpa [mem_allTerms_searchable] using ⟨hmem, hknown⟩
  rw [weigh_builtTables, lookup_map_self, if_pos hfilter, Option.elim_some]

/-- The sum of all hits of a row with an identifier. -/
theorem amountOf_hits (h : t.Keyed) (hr : r ∈ t.nodes) (hsearch : r.isSearchable = true) (hid : r.id.isSome = true)
    (terms : List String) :
    amountOf r.id (hits (Session.builtTables t) (weigh (Session.builtTables t).rarity terms)) =
      t.rawRelevance terms r := by
  have hkept : Document.ofRow r ∈ keptDocuments (t.searchable.map Document.ofRow) :=
    mem_keptDocuments_of_isSome (List.mem_map_of_mem (Tables.mem_searchable.mpr ⟨hr, hsearch⟩)) hid
  set sorted := ((weigh (Session.builtTables t).rarity terms).map (·.1)).eraseDups.mergeSort fun a b => a ≤ b
    with hsorted
  have hnodup : sorted.Nodup := (List.mergeSort_perm _ _).nodup_iff.mpr (nodup_eraseDups _)
  have hsame : sorted.toFinset.filter (· ∈ r.tokens) = terms.toFinset.filter (· ∈ r.tokens) := by
    ext term
    rw [Finset.mem_filter, Finset.mem_filter, List.mem_toFinset, List.mem_toFinset, hsorted, mem_sorted_terms]
    constructor
    · rintro ⟨⟨hmem, -⟩, htoken⟩
      exact ⟨hmem, htoken⟩
    · rintro ⟨hmem, htoken⟩
      exact ⟨⟨hmem, r, hr, hsearch, htoken⟩, htoken⟩
  calc amountOf r.id (hits (Session.builtTables t) (weigh (Session.builtTables t).rarity terms))
      = (sorted.map fun term => if term ∈ r.tokens then r.frequency term * t.inverseFrequency term else 0).sum := by
        rw [hits_builtTables, amountOf_flatMap]
        refine congrArg List.sum (List.map_congr_left fun term _ => ?_)
        refine (amountOf_term h hkept term _).trans ?_
        rw [terms_ofRow_eq_tokens]
        split
        · next htoken => rw [weight_ofRow htoken]
        · rfl
    _ = ∑ term ∈ sorted.toFinset, if term ∈ r.tokens then r.frequency term * t.inverseFrequency term else 0 :=
        (List.sum_toFinset _ hnodup).symm
    _ = t.rawRelevance terms r := by
        rw [← Finset.sum_filter, hsame]
        rfl

/-- Which nodes are hit. -/
theorem mem_map_fst_hits (h : t.Keyed) {node : NodeId} :
    node ∈ (hits (Session.builtTables t) (weigh (Session.builtTables t).rarity terms)).map (·.1) ↔
      ∃ d ∈ keptDocuments (t.searchable.map Document.ofRow), d.id = node ∧ ∃ term ∈ terms, term ∈ d.terms := by
  have hkeys := nodup_filterMap_id_documents h
  have hrows : ∀ x, x ∈ (Session.builtTables t).terms ↔
      x ∈ (keptDocuments (t.searchable.map Document.ofRow)).flatMap Document.rows := fun x =>
    (termRows_perm_kept hkeys).mem_iff
  rw [hits_builtTables]
  simp only [List.map_flatMap, List.map_map, List.mem_flatMap, List.mem_map, List.mem_filter, Function.comp_apply,
    beq_iff_eq, hrows]
  constructor
  · rintro ⟨term, hterm, x, ⟨⟨d, hd, hx⟩, rfl⟩, rfl⟩
    exact ⟨d, hd, (node_of_mem_rows hx).symm, x.term, (mem_sorted_terms.mp hterm).1, exists_mem_rows.mp ⟨x, hx, rfl⟩⟩
  · rintro ⟨d, hd, rfl, term, hterm, htoken⟩
    obtain ⟨x, hx, rfl⟩ := (exists_mem_rows (R := ℝ)).mpr htoken
    obtain ⟨r, hr, rfl⟩ := List.mem_map.mp (mem_of_mem_keptDocuments hd)
    obtain ⟨hr, hsearch⟩ := Tables.mem_searchable.mp hr
    rw [terms_ofRow_eq_tokens] at htoken
    exact ⟨x.term, mem_sorted_terms.mpr ⟨hterm, r, hr, hsearch, htoken⟩, x, ⟨⟨_, hd, hx⟩, rfl⟩, node_of_mem_rows hx⟩

theorem nodup_map_id_matching (h : t.Keyed) (hnamed : ∀ r ∈ t.matching terms, r.id.isSome = true) :
    ((t.matching terms).map (·.id)).Nodup := by
  have hnodup : ((t.matching terms).filterMap (·.id)).Nodup := (List.filter_sublist.filterMap _).nodup h
  rw [← List.filter_eq_self.mpr hnamed]
  exact nodup_map_of_nodup_filterMap hnodup

/-- **The scores of a search in a built index** are those of the rows that share a term with the query. -/
theorem scores_builtTables_perm (h : t.Keyed) (hnamed : ∀ r ∈ t.matching terms, r.id.isSome = true) :
    (scores (Session.builtTables t) (weigh (Session.builtTables t).rarity terms)).Perm
      ((t.matching terms).map fun r => (r.id, t.rawRelevance terms r)) := by
  have hscores := (nodup_map_fst_scores (Session.builtTables t) (weigh (Session.builtTables t).rarity terms)).of_map
  have hrows : ((t.matching terms).map fun r => (r.id, t.rawRelevance terms r)).Nodup := by
    refine List.Nodup.of_map (·.1) ?_
    rw [List.map_map]
    exact nodup_map_id_matching h hnamed
  refine (List.perm_ext_iff_of_nodup hscores hrows).mpr fun entry => ?_
  obtain ⟨node, x⟩ := entry
  rw [mem_scores_iff, mem_map_fst_hits h, List.mem_map]
  constructor
  · rintro ⟨⟨d, hd, rfl, term, hterm, htoken⟩, rfl⟩
    obtain ⟨r, hr, rfl⟩ := List.mem_map.mp (mem_of_mem_keptDocuments hd)
    obtain ⟨hr, hsearch⟩ := Tables.mem_searchable.mp hr
    rw [terms_ofRow_eq_tokens] at htoken
    have hmatch : r ∈ t.matching terms := Tables.mem_matching.mpr ⟨hr, hsearch, term, hterm, htoken⟩
    exact ⟨r, hmatch, congrArg (r.id, ·) (amountOf_hits h hr hsearch (hnamed r hmatch) terms).symm⟩
  · rintro ⟨r, hmatch, heq⟩
    obtain ⟨rfl, rfl⟩ := Prod.mk.inj heq
    obtain ⟨hr, hsearch, term, hterm, htoken⟩ := Tables.mem_matching.mp hmatch
    have hid := hnamed r hmatch
    refine ⟨⟨Document.ofRow r, ?_, rfl, term, hterm, ?_⟩, (amountOf_hits h hr hsearch hid terms).symm⟩
    · exact mem_keptDocuments_of_isSome (List.mem_map_of_mem (Tables.mem_searchable.mpr ⟨hr, hsearch⟩)) hid
    · rwa [terms_ofRow_eq_tokens]

/-- The rows that share a term with a query, ranked as a search ranks them. -/
theorem exists_ranking (h : t.Keyed) (hnamed : ∀ r ∈ t.matching terms, r.id.isSome = true) :
    ∃ ranking : List NodeRow, ranking.Perm (t.matching terms) ∧
      ranking.Pairwise (fun a b => t.rawRelevance terms b ≤ t.rawRelevance terms a) ∧
      ranked (scores (Session.builtTables t) (weigh (Session.builtTables t).rarity terms)) =
        ranking.map fun r => (r.id, t.rawRelevance terms r) := by
  set found := ranked (scores (Session.builtTables t) (weigh (Session.builtTables t).rarity terms)) with hfound
  have hperm : found.Perm ((t.matching terms).map fun r => (r.id, t.rawRelevance terms r)) :=
    (List.mergeSort_perm _ _).trans (scores_builtTables_perm h hnamed)
  -- the row of an entry is the one with its identifier
  have hrow : ∀ r ∈ t.matching terms, t.row? r.id = some r := fun r hr =>
    h.row?_eq_some (Tables.mem_matching.mp hr).1 (hnamed r hr)
  have hentries : (found.filterMap fun entry => t.row? entry.1).map (fun r => (r.id, t.rawRelevance terms r)) = found := by
    rw [List.map_filterMap]
    refine (List.filterMap_eq_map_iff_forall_eq_some (g := id) |>.mpr fun entry hentry => ?_).trans (List.map_id _)
    obtain ⟨r, hr, rfl⟩ := List.mem_map.mp (hperm.mem_iff.mp hentry)
    rw [hrow r hr]
    rfl
  refine ⟨found.filterMap fun entry => t.row? entry.1, ?_, ?_, hentries.symm⟩
  · refine (hperm.filterMap _).trans (List.Perm.of_eq ?_)
    rw [List.filterMap_map]
    refine (List.filterMap_eq_map_iff_forall_eq_some (g := id) |>.mpr fun r hr => ?_).trans (List.map_id _)
    exact hrow r hr
  · have hsorted : found.Pairwise fun a b => b.2 ≤ a.2 := pairwise_ranked _
    rw [← hentries] at hsorted
    exact List.pairwise_map.mp hsorted

/-! ### Normal scores -/

theorem rawRelevance_le (hr : r ∈ t.matching terms) :
    0 < (terms.length : ℝ) * t.greatestInverse ∧ t.rawRelevance terms r ≤ terms.length * t.greatestInverse := by
  obtain ⟨hr, hsearch, term, hterm, htoken⟩ := Tables.mem_matching.mp hr
  have hle : ∀ term ∈ r.tokens, t.inverseFrequency term ≤ t.greatestInverse := fun term hterm =>
    (inverseFrequency_le_greatestInverse ⟨r, hr, hsearch, hterm⟩).1
  have hone : 1 ≤ t.greatestInverse := (t.one_le_inverseFrequency term).trans (hle term htoken)
  have hlength : 0 < (terms.length : ℝ) := by exact_mod_cast List.length_pos_of_mem hterm
  refine ⟨by positivity, ?_⟩
  calc t.rawRelevance terms r
      ≤ ∑ term ∈ terms.toFinset with term ∈ r.tokens, t.greatestInverse := by
        refine Finset.sum_le_sum fun other hother => ?_
        calc r.frequency other * t.inverseFrequency other
            ≤ 1 * t.inverseFrequency other :=
              mul_le_mul_of_nonneg_right (r.frequency_le_one other)
                (zero_le_one.trans (t.one_le_inverseFrequency other))
          _ ≤ t.greatestInverse := by
              rw [one_mul]
              exact hle other (Finset.mem_filter.mp hother).2
    _ = ((terms.toFinset.filter (· ∈ r.tokens)).card : ℝ) * t.greatestInverse := by rw [Finset.sum_const, nsmul_eq_mul]
    _ ≤ terms.length * t.greatestInverse := by
        refine mul_le_mul_of_nonneg_right ?_ (by linarith)
        exact_mod_cast (Finset.card_filter_le _ _).trans (List.toFinset_card_le _)

/-- The score that a search gives a row is its relevance: it needs no cutting down to one. -/
theorem normalized_rawRelevance (hr : r ∈ t.matching terms) :
    normalized (Scalar.mul (Scalar.ratio terms.length 1) (greatest (Session.builtTables t).rarity))
      (t.rawRelevance terms r) = t.relevance terms r := by
  obtain ⟨hpos, hle⟩ := rawRelevance_le hr
  obtain ⟨hnode, hsearch, term, -, htoken⟩ := Tables.mem_matching.mp hr
  have hmost : Scalar.mul (Scalar.ratio terms.length 1) (greatest (Session.builtTables t).rarity) =
      (terms.length : ℝ) * t.greatestInverse := by
    rw [(inverseFrequency_le_greatestInverse ⟨r, hnode, hsearch, htoken⟩).2]
    change (((terms.length : ℕ) : ℤ) : ℝ) / ((1 : ℤ) : ℝ) * _ = _
    simp
  rw [hmost]
  exact normalized_eq_div hpos hle

/-! ## Searches in a built index -/

/-- Without a known term no row shares a term with the query. -/
theorem matching_eq_nil (h : weigh (Session.builtTables t).rarity terms = []) : t.matching terms = [] := by
  rw [weigh_builtTables, List.map_eq_nil_iff, List.filter_eq_nil_iff] at h
  apply List.eq_nil_iff_forall_not_mem.mpr
  intro r hr
  obtain ⟨hnode, hsearch, term, hterm, htoken⟩ := Tables.mem_matching.mp hr
  apply h term hterm
  simpa [mem_allTerms_searchable] using ⟨r, hnode, hsearch, htoken⟩

/-- The rows of the best scores are found again under their identifiers. -/
theorem filterMap_row?_ranking (h : t.Keyed) {ranking : List NodeRow}
    (hranking : ∀ r ∈ ranking, r ∈ t.matching terms ∧ r.id.isSome = true) :
    (ranking.map fun r => (r.id, t.rawRelevance terms r)).filterMap (fun entry =>
        ((Session.builtTables t).row? entry.1).map fun r => (r.toNode [], normalized
          (Scalar.mul (Scalar.ratio terms.length 1) (greatest (Session.builtTables t).rarity)) entry.2)) =
      ranking.map fun r => (r.toNode [], t.relevance terms r) := by
  rw [List.filterMap_map]
  refine List.filterMap_eq_map_iff_forall_eq_some.mpr fun r hr => ?_
  obtain ⟨hmatch, hid⟩ := hranking r hr
  have hrow : (Session.builtTables t).row? r.id = some r := h.row?_eq_some (Tables.mem_matching.mp hmatch).1 hid
  rw [Function.comp_apply, hrow]
  exact congrArg (fun x => some (r.toNode [], x)) (normalized_rawRelevance hmatch)

/-- What the tables of a built index hold for the terms of a query. -/
theorem find_builtTables {c : Connection ℝ} (hopen : c.isOpen = true) (hview : c.view = Session.builtTables t)
    (h : t.Keyed) (hnamed : ∀ r ∈ t.matching terms, r.id.isSome = true)
    (hterms : terms.length ≤ c.limits.maxVariables) (limit : ℕ)
    (hresults : min limit (t.matching terms).length ≤ c.limits.maxVariables) :
    ∃ ranking : List NodeRow, ranking.Perm (t.matching terms) ∧
      ranking.Pairwise (fun a b => t.relevance terms b ≤ t.relevance terms a) ∧
      find c c.view.rarity terms limit =
        .ok ((ranking.take limit).map fun r => (r.toNode [], t.relevance terms r)) := by
  obtain ⟨ranking, hperm, hsorted, hranked⟩ := exists_ranking h hnamed
  refine ⟨ranking, hperm, ?_, ?_⟩
  · refine hsorted.imp_of_mem fun {a b} ha _ hle => ?_
    exact div_le_div_of_nonneg_right hle (rawRelevance_le (hperm.mem_iff.mp ha)).1.le
  have hweights : (weigh (Session.builtTables t).rarity terms).length ≤ c.limits.maxVariables := by
    rw [weigh_builtTables, List.length_map]
    exact (List.length_filter_le _ _).trans hterms
  have hbest : cutAtLimit limit (ranked (scores (Session.builtTables t) (weigh (Session.builtTables t).rarity terms))) =
      (ranking.take limit).map fun r => (r.id, t.rawRelevance terms r) := by
    rw [hranked, cutAtLimit, if_pos (Int.natCast_nonneg limit), Int.toNat_natCast, List.map_take]
  have hmatching : ∀ r ∈ ranking.take limit, r ∈ t.matching terms ∧ r.id.isSome = true := by
    intro r hr
    have hmatch := hperm.mem_iff.mp (List.mem_of_mem_take hr)
    exact ⟨hmatch, hnamed r hmatch⟩
  unfold find
  rw [hview]
  dsimp only
  split
  · next hempty =>
    rw [matching_eq_nil (List.isEmpty_iff.mp hempty), List.perm_nil] at hperm
    rw [hperm, List.take_nil]
    rfl
  rw [if_neg (by simp [hopen]), if_neg (Nat.not_lt.mpr hweights), hbest]
  split
  · next hempty =>
    rw [List.isEmpty_iff, List.map_eq_nil_iff] at hempty
    rw [hempty]
    rfl
  rw [if_neg, filterMap_row?_ranking h hmatching]
  rw [List.length_map, List.length_take, hperm.length_eq]
  exact Nat.not_lt.mpr hresults

/-- Everything that is found has an identifier. -/
theorem isSome_id_of_find {R : Type} [Scalar R] {c : Connection R} {known : List (String × R)} {terms : List String}
    {limit : Int} {found : List (Node × R)} (h : find c known terms limit = .ok found) :
    ∀ entry ∈ found, entry.1.id.isSome = true := by
  rw [eq_of_find_eq_ok h]
  intro entry hentry
  obtain ⟨best, -, heq⟩ := List.mem_filterMap.mp hentry
  obtain ⟨r, hr, rfl⟩ := Option.map_eq_some_iff.mp heq
  exact (Tables.id_of_row?_eq_some hr).2

end Built

/-- **What a search finds after the index was built**, in real numbers: whatever tables the index was built for and
whatever searches came before, the rows that share a term with the query are ranked by their relevance, each of them
once, and the first of them are found, up to the limit. The identifier is the key of the table, all rows that share a
term with the query have one, and neither the terms of the query nor the rows that are found are too many for one
statement. -/
theorem search_built_eq_ranking (s : Session ℝ) (hopen : s.connection.isOpen = true)
    (hkeyed : s.connection.view.Keyed) (earlier : List (String × Int)) (query : String) (limit : ℕ)
    (hnamed : ∀ r ∈ s.connection.view.matching (tokenize query), r.id.isSome = true)
    (hterms : (tokenize query).length ≤ s.connection.limits.maxVariables)
    (hresults : min limit (s.connection.view.matching (tokenize query)).length ≤ s.connection.limits.maxVariables) :
    s.build.1 = .ok () ∧ ∃ ranking : List NodeRow,
      ranking.Perm (s.connection.view.matching (tokenize query)) ∧
      ranking.Pairwise (fun a b => s.connection.view.relevance (tokenize query) b ≤
        s.connection.view.relevance (tokenize query) a) ∧
      ((s.build.2.run (earlier.map fun search => .search search.1 search.2)).search query limit).1 =
        .ok ((ranking.take limit).map fun r => (r.toNode [], s.connection.view.relevance (tokenize query) r)) := by
  refine ⟨by rw [Session.build_of_isOpen hopen], ?_⟩
  have hconnection := Session.connection_run_search s.build.2 earlier
  have hcoherent := (Session.coherent_build hopen).run (earlier.map fun search => .search search.1 search.2)
  have hbuilt := Session.isOpen_build hopen
  have hview := Session.view_build hopen
  rw [← hconnection] at hbuilt hview
  rw [← hbuilt.2] at hterms hresults
  rw [hcoherent.search_eq (linear_real _), Session.search_anew_of_isOpen hbuilt.1]
  exact find_builtTables hbuilt.1 hview hkeyed hnamed hterms limit hresults

/-- Two functions share a term with the query, which names one of its terms twice, and one function has no identifier. -/
theorem search_best_of_two :
    let s : Session ℝ := { connection := { committed := { nodes :=
      [functionRow (some "a") "fetch_users", functionRow none "load", functionRow (some "b") "fetch"] } } }
    let t := s.connection.view
    let terms := tokenize "fetch users users"
    s.connection.isOpen = true ∧ t.Keyed ∧ (t.matching terms).length = 2 ∧
      (∀ r ∈ t.matching terms, r.id.isSome = true) ∧ terms.length ≤ s.connection.limits.maxVariables ∧
      s.build.1 = .ok () ∧ ∃ ranking : List NodeRow, ranking.Perm (t.matching terms) ∧
        ranking.Pairwise (fun a b => t.relevance terms b ≤ t.relevance terms a) ∧
        ((s.build.2.run ([("fetch", 5)].map fun search => .search search.1 search.2)).search "fetch users users"
          (1 : ℕ)).1 = .ok ((ranking.take 1).map fun r => (r.toNode [], t.relevance terms r)) := by
  intro s t terms
  have hopen : s.connection.isOpen = true := rfl
  have hkeyed : t.Keyed := by decide +kernel
  have hlength : (t.matching terms).length = 2 := by decide +kernel
  have hnamed : ∀ r ∈ t.matching terms, r.id.isSome = true := by decide +kernel
  have hterms : terms.length ≤ s.connection.limits.maxVariables := by decide +kernel
  have hresults : min 1 (t.matching terms).length ≤ s.connection.limits.maxVariables := by
    rw [hlength]
    decide
  exact ⟨hopen, hkeyed, hlength, hnamed, hterms,
    search_built_eq_ranking s hopen hkeyed [("fetch", 5)] "fetch users users" 1 hnamed hterms hresults⟩

/-- A function without identifier shares a term with the query, but it is not found. -/
theorem search_built_ne_ranking_without_id :
    let s : Session ℝ := { connection := { committed := { nodes := [functionRow none "fetch"] } } }
    let t := s.connection.view
    let terms := tokenize "fetch"
    s.connection.isOpen = true ∧ t.Keyed ∧ t.matching terms = [functionRow none "fetch"] ∧
      ¬ ∃ ranking : List NodeRow, ranking.Perm (t.matching terms) ∧
        (s.build.2.search "fetch" (10 : ℕ)).1 =
          .ok ((ranking.take 10).map fun r => (r.toNode [], t.relevance terms r)) := by
  intro s t terms
  have hmatching : t.matching terms = [functionRow none "fetch"] := by decide +kernel
  refine ⟨rfl, by decide +kernel, hmatching, ?_⟩
  rintro ⟨ranking, hperm, hfound⟩
  have hopen : s.build.2.connection.isOpen = true := (Session.isOpen_build rfl).1
  rw [(Session.coherent_build rfl).search_eq (linear_real _), Session.search_anew_of_isOpen hopen] at hfound
  -- the row would be found, without an identifier
  rw [hmatching, List.perm_singleton] at hperm
  subst hperm
  have hid := isSome_id_of_find hfound _ (List.mem_singleton_self _)
  cases hid

end CodeAtlas
