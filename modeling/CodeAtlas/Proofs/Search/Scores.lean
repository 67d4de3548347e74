import Mathlib
import CodeAtlas.Proofs.Search.Relevance
import CodeAtlas.Proofs.Search.Steps

/-!
# The scores of searches

A search takes each score in proportion to the greatest score that is possible for its query, and cuts it down to one.
The cut is never needed. A term stands in the index at most once for each node, with a weight that is positive and at
most one, whatever the index has been through. So each different term of the query adds at most its rarity to the score
of a node. The rarities that count are positive, and the greatest rarity that the engine knows bounds them all, however
outdated and whatever the other rarities are. A term that is repeated in the query counts once in the score, and each
time in the greatest possible score.

## Main definitions

* `Tables.Weighted`: an index with sound weights
* `proportions`: the best rows, with their scores in proportion to the greatest possible one
* `Graded`: results with scores that are positive, at most one, and do not increase
* `Session.Scored`: a session on an index with sound weights, that remembers such results

## Main results

* `kept_weighted`: whatever happens to the tables, the weights stay sound
* `value_score_le`: no score exceeds the greatest possible one
* `eq_proportions_of_find`, `graded_proportions`: what is found
* `search_graded`: what every search gives, after everything that a session may meet with
-/

namespace CodeAtlas

open Store Search

section Values

open Measured

variable {R : Type} [Scalar R] [Measured R]

namespace Search

/-! ## Scores are sums -/

/-- The entries with the real numbers that they stand for. -/
noncomputable def valued (entries : List (NodeId × R)) : List (NodeId × ℝ) :=
  entries.map fun entry => (entry.1, value entry.2)

theorem valued_addScore (node : NodeId) (amount : R) (entries : List (NodeId × R)) :
    valued (addScore node amount entries) = addScore node (value amount) (valued entries) := by
  induction entries with
  | nil => rfl
  | cons entry rest ih =>
    obtain ⟨n, x⟩ := entry
    change valued (addScore node amount ((n, x) :: rest)) = addScore node (value amount) ((n, value x) :: valued rest)
    rw [addScore, addScore]
    by_cases hn : n = node
    · rw [if_pos hn, if_pos hn]
      exact congrArg (fun sum => (n, sum) :: valued rest) (value_add x amount)
    · rw [if_neg hn, if_neg hn, ← ih]
      rfl

theorem valued_foldl_addScore (found entries : List (NodeId × R)) :
    valued (found.foldl (fun entries hit => addScore hit.1 hit.2 entries) entries) =
      (valued found).foldl (fun entries hit => addScore hit.1 hit.2 entries) (valued entries) := by
  induction found generalizing entries with
  | nil => rfl
  | cons hit rest ih =>
    rw [List.foldl_cons, ih, valued_addScore]
    rfl

/-- **A score is the sum of the hits of its node**, and the node was hit. -/
theorem value_of_mem_scores {t : Tables R} {weights : List (String × R)} {entry : NodeId × R}
    (h : entry ∈ scores t weights) :
    entry.1 ∈ (valued (hits t weights)).map (·.1) ∧ value entry.2 = amountOf entry.1 (valued (hits t weights)) := by
  have hmem : (entry.1, value entry.2) ∈ valued (scores t weights) := List.mem_map.mpr ⟨entry, h, rfl⟩
  have hkeys := keys_foldl_addScore (valued (hits t weights)) [] List.nodup_nil
  rw [scores_eq_foldl_hits, valued_foldl_addScore] at hmem
  obtain ⟨hhit, hvalue⟩ := (mem_iff_amountOf hkeys.1).mp hmem
  rw [amountOf_foldl_addScore, amountOf_nil, zero_add] at hvalue
  exact ⟨((hkeys.2 _).mp hhit).resolve_left List.not_mem_nil, hvalue⟩

theorem amountOf_pos {node : NodeId} {entries : List (NodeId × ℝ)} (hpos : ∀ entry ∈ entries, 0 < entry.2)
    (h : node ∈ entries.map (·.1)) : 0 < amountOf node entries := by
  refine List.sum_pos _ (fun x hx => ?_) ?_
  · obtain ⟨entry, hentry, rfl⟩ := List.mem_map.mp hx
    exact hpos entry (List.mem_of_mem_filter hentry)
  · obtain ⟨entry, hentry, rfl⟩ := List.mem_map.mp h
    have hmem : entry ∈ entries.filter (·.1 == entry.1) := List.mem_filter.mpr ⟨hentry, beq_self_eq_true _⟩
    exact List.ne_nil_of_mem (List.mem_map_of_mem hmem)

end Search

/-! ## Sound weights -/

namespace Store.Tables

/-- A term stands in the index at most once for each node, with a weight that is positive and at most one. -/
structure Weighted (t : Tables R) : Prop where
  once : (t.terms.map fun r => (r.node, r.term)).Nodup
  weight : ∀ r ∈ t.terms, 0 < value r.weight ∧ value r.weight ≤ 1

variable {t : Tables R}

theorem weighted_of_terms_eq_nil (h : t.terms = []) : t.Weighted where
  once := by
    rw [h]
    exact List.nodup_nil
  weight r hr := by
    rw [h] at hr
    cases hr

/-- There is at most one row for a node and a term. -/
theorem Weighted.length_le_one (h : t.Weighted) (node : NodeId) (term : String) :
    ((t.terms.filter (·.term == term)).filter (·.node == node)).length ≤ 1 := by
  set rows := (t.terms.filter (·.term == term)).filter (·.node == node) with hrows
  have hsame : ∀ key ∈ rows.map fun r => (r.node, r.term), key = (node, term) := by
    intro key hkey
    obtain ⟨r, hr, rfl⟩ := List.mem_map.mp hkey
    simp only [hrows, List.mem_filter, beq_iff_eq] at hr
    rw [hr.1.2, hr.2]
  have hnodup : (rows.map fun r => (r.node, r.term)).Nodup :=
    h.once.sublist ((List.filter_sublist.trans List.filter_sublist).map _)
  rwa [List.eq_replicate_of_mem hsame, List.nodup_replicate, List.length_map] at hnodup

end Store.Tables

namespace Search

/-! ### Documents -/

theorem nodup_map_id_onePerId (ds : List Document) : ((onePerId ds).map (·.id)).Nodup := by
  have hfold : ∀ (rest done : List Document), (done.map (·.id)).Nodup →
      ((rest.foldl (fun ds d => putDocument d ds) done).map (·.id)).Nodup := by
    intro rest
    induction rest with
    | nil => exact fun _ hdone => hdone
    | cons d rest ih =>
      intro done hdone
      refine ih _ (((putDocument_perm hdone).map _).nodup_iff.mpr ?_)
      rw [List.map_cons, List.nodup_cons]
      exact ⟨by simp, (List.filter_sublist.map _).nodup hdone⟩
  exact hfold ds [] List.nodup_nil

/-- The weight of a term of a document is positive and at most one. -/
theorem value_weight {d : Document} {term : String} (h : term ∈ d.terms) :
    0 < value (d.weight term : R) ∧ value (d.weight term : R) ≤ 1 := by
  obtain ⟨most, -, hle, hgreatest⟩ := exists_most_frequent (List.ne_nil_of_mem h)
  rw [Document.weight, hgreatest]
  exact value_frequency (by exact_mod_cast List.count_pos_iff.mpr h) (by exact_mod_cast hle term)

/-- **The terms of some documents**, as they go into the index. -/
theorem weighted_termRows (ds : List Document) :
    ((termRows ds : List (TermRow R)).map fun r => (r.node, r.term)).Nodup ∧
      ∀ r ∈ (termRows ds : List (TermRow R)), 0 < value r.weight ∧ value r.weight ≤ 1 := by
  have hkeys : ∀ d : Document, (d.rows : List (TermRow R)).map (fun r => (r.node, r.term)) =
      d.terms.eraseDups.map fun term => (d.id, term) := by
    intro d
    rw [Document.rows_eq, List.map_map]
    rfl
  constructor
  · rw [termRows, List.map_flatMap, List.nodup_flatMap]
    refine ⟨fun d _ => ?_, ?_⟩
    · rw [hkeys]
      exact (nodup_eraseDups _).map fun a b hab => (Prod.mk.inj hab).2
    · -- documents that are kept have different identifiers
      refine (List.pairwise_map.mp (nodup_map_id_onePerId ds)).imp fun {d e} hne => ?_
      intro key hd he
      simp only [hkeys] at hd he
      obtain ⟨term, -, rfl⟩ := List.mem_map.mp hd
      obtain ⟨term', -, heq⟩ := List.mem_map.mp he
      exact hne (Prod.mk.inj heq).1.symm
  · intro r hr
    obtain ⟨d, -, hd⟩ := List.mem_flatMap.mp hr
    rw [Document.rows_eq] at hd
    obtain ⟨term, hterm, rfl⟩ := List.mem_map.mp hd
    exact value_weight (List.mem_eraseDups.mp hterm)

omit [Measured R] in
theorem node_of_mem_termRows {ds : List Document} {r : TermRow R} (h : r ∈ termRows ds) : ∃ d ∈ ds, r.node = d.id := by
  obtain ⟨d, hd, hr⟩ := List.mem_flatMap.mp h
  exact ⟨d, (mem_of_mem_foldl_putDocument hd).resolve_left List.not_mem_nil, node_of_mem_rows hr⟩

end Search

namespace Store.Tables

/-- **Whatever happens to the tables, the weights stay sound.** -/
theorem kept_weighted : Tables.Kept (Tables.Weighted (R := R)) := by
  intro t t' h hstep
  cases hstep with
  | withNodes => exact weighted_of_terms_eq_nil rfl
  | putDigest | dropFiles => exact ⟨h.once, h.weight⟩
  | dropTerms ids =>
    exact ⟨h.once.sublist (List.filter_sublist.map _), fun r hr => h.weight r (List.mem_of_mem_filter hr)⟩
  | build => exact ⟨(weighted_termRows _).1, (weighted_termRows _).2⟩
  | index ids values =>
    set documents := (chosenRows t ids).map Document.ofRow with hdocuments
    obtain ⟨honce, hweight⟩ := weighted_termRows (R := R) documents
    have hterms : (Session.indexedTables ids documents values t).terms =
        (t.dropTerms ids).terms ++ termRows documents := by
      have hlearnt := congrArg Tables.terms (foldl_putRarity_eq values (t.dropTerms ids))
      exact congrArg (· ++ termRows documents) hlearnt
    refine ⟨?_, fun r hr => ?_⟩
    · rw [hterms, List.map_append]
      refine (h.once.sublist (List.filter_sublist.map _)).append honce ?_
      -- the rows of the chosen nodes were taken out before
      intro key hold hnew
      obtain ⟨r, hr, rfl⟩ := List.mem_map.mp hnew
      obtain ⟨old, hold, hkey⟩ := List.mem_map.mp hold
      obtain ⟨d, hd, hnode⟩ := node_of_mem_termRows hr
      obtain ⟨row, hrow, rfl⟩ := List.mem_map.mp hd
      obtain ⟨-, -, hsome, hmem⟩ := mem_chosenRows.mp hrow
      have hout := (List.mem_filter.mp hold).2
      rw [(Prod.mk.inj hkey).1, hnode] at hout
      simp [Document.ofRow, hsome, hmem] at hout
    · rw [hterms] at hr
      rcases List.mem_append.mp hr with hr | hr
      · exact h.weight r (List.mem_of_mem_filter hr)
      · exact hweight r hr

end Store.Tables

namespace Search

/-! ## Bounds of scores -/

variable {t : Tables R} {known : List (String × R)} {terms : List String}

/-- What a search adds to the scores is positive. -/
theorem value_hit_pos (ht : t.Weighted) {hit : NodeId × ℝ} (h : hit ∈ valued (hits t (weigh known terms))) :
    0 < hit.2 := by
  obtain ⟨entry, hentry, rfl⟩ := List.mem_map.mp h
  obtain ⟨term, -, hterm⟩ := List.mem_flatMap.mp hentry
  cases hlookup : (weigh known terms).lookup term with
  | none =>
    rw [hlookup] at hterm
    cases hterm
  | some w =>
    rw [hlookup] at hterm
    obtain ⟨r, hr, rfl⟩ := List.mem_map.mp hterm
    have hw := (of_mem_weigh (mem_of_lookup hlookup)).2.1
    simp only [value_mul]
    exact mul_pos (ht.weight r (List.mem_of_mem_filter hr)).1 hw

/-- **A term adds at most its rarity to the score of a node.** -/
theorem amountOf_term_le (ht : t.Weighted) (node : NodeId) (term : String) {w : R} (hw : 0 < value w) :
    amountOf node (valued ((t.terms.filter (·.term == term)).map fun r => (r.node, Scalar.mul r.weight w))) ≤
      value w := by
  have hlength := ht.length_le_one node term
  have hrows : ∀ r ∈ (t.terms.filter (·.term == term)).filter (·.node == node), r ∈ t.terms := fun r hr =>
    List.mem_of_mem_filter (List.mem_of_mem_filter hr)
  rw [valued, List.map_map, amountOf, List.filter_map, List.map_map]
  change (((t.terms.filter (·.term == term)).filter (·.node == node)).map fun r => value (Scalar.mul r.weight w)).sum ≤ _
  generalize (t.terms.filter (·.term == term)).filter (·.node == node) = rows at hlength hrows
  cases rows with
  | nil => exact hw.le
  | cons r rest =>
    obtain rfl : rest = [] := List.length_eq_zero_iff.mp (by simpa using hlength)
    rw [List.map_singleton, List.sum_singleton, value_mul]
    exact mul_le_of_le_one_left hw.le (ht.weight r (hrows r List.mem_cons_self)).2

/-- The terms that a search goes through: each of those that count, once. -/
def countedTerms (weights : List (String × R)) : List String :=
  (weights.map (·.1)).eraseDups.mergeSort fun a b => a ≤ b

/-- What a term adds to the score of a node. -/
noncomputable def share (t : Tables R) (weights : List (String × R)) (node : NodeId) (term : String) : ℝ :=
  amountOf node (valued ((weights.lookup term).elim [] fun w =>
    (t.terms.filter (·.term == term)).map fun r => (r.node, Scalar.mul r.weight w)))

theorem amountOf_hits_eq_sum (t : Tables R) (weights : List (String × R)) (node : NodeId) :
    amountOf node (valued (hits t weights)) = ((countedTerms weights).map (share t weights node)).sum := by
  rw [hits, valued, List.map_flatMap, amountOf_flatMap]
  rfl

/-- A term that the query repeats is counted once. -/
theorem length_countedTerms_le (known : List (String × R)) (terms : List String) :
    (countedTerms (weigh known terms)).length ≤ terms.length := by
  have hnodup : (countedTerms (weigh known terms)).Nodup :=
    (List.mergeSort_perm _ _).nodup_iff.mpr (nodup_eraseDups _)
  refine (hnodup.subperm fun term hterm => ?_).length_le
  rw [countedTerms, List.mem_mergeSort, List.mem_eraseDups] at hterm
  obtain ⟨entry, hentry, rfl⟩ := List.mem_map.mp hterm
  exact (of_mem_weigh hentry).1

theorem share_le (ht : t.Weighted) (hweights : weigh known terms ≠ []) (node : NodeId) (term : String) :
    share t (weigh known terms) node term ≤ value (greatest known) := by
  unfold share
  cases hlookup : (weigh known terms).lookup term with
  | none => exact (value_greatest_pos hweights).1.le
  | some w =>
    obtain ⟨-, hpos, hle⟩ := of_mem_weigh (mem_of_lookup hlookup)
    exact (amountOf_term_le ht node term hpos).trans hle

omit [Measured R] in
theorem weigh_ne_nil_of_mem_scores {entry : NodeId × R} (h : entry ∈ scores t (weigh known terms)) :
    weigh known terms ≠ [] := by
  intro hnil
  rw [hnil] at h
  simp [scores] at h

/-- **Scores are positive, and none exceeds the greatest possible one.** -/
theorem value_score_le (ht : t.Weighted) {entry : NodeId × R} (h : entry ∈ scores t (weigh known terms)) :
    0 < value entry.2 ∧ value entry.2 ≤ value (greatestScore known terms) := by
  have hweights := weigh_ne_nil_of_mem_scores h
  obtain ⟨hhit, hvalue⟩ := value_of_mem_scores h
  refine ⟨hvalue ▸ amountOf_pos (fun _ hhit => value_hit_pos ht hhit) hhit, ?_⟩
  have hshares : ∀ x ∈ (countedTerms (weigh known terms)).map (share t (weigh known terms) entry.1),
      x ≤ value (greatest known) := by
    intro x hx
    obtain ⟨term, -, rfl⟩ := List.mem_map.mp hx
    exact share_le ht hweights entry.1 term
  calc value entry.2
      = ((countedTerms (weigh known terms)).map (share t (weigh known terms) entry.1)).sum :=
        hvalue.trans (amountOf_hits_eq_sum _ _ _)
    _ ≤ (countedTerms (weigh known terms)).length • value (greatest known) := by
        simpa using List.sum_le_card_nsmul _ _ hshares
    _ ≤ value (greatestScore known terms) := by
        rw [value_greatestScore, nsmul_eq_mul]
        exact mul_le_mul_of_nonneg_right (by exact_mod_cast length_countedTerms_le known terms)
          (value_greatest_pos hweights).1.le

/-! ## What is found -/

/-- The rows of the best scores, with the scores in proportion to the greatest possible one, and not cut down. -/
def proportions (t : Tables R) (known : List (String × R)) (terms : List String) (limit : Int) : List (Node × R) :=
  (cutAtLimit limit (ranked (scores t (weigh known terms)))).filterMap fun entry =>
    (t.row? entry.1).map fun r => (r.toNode [], Scalar.div entry.2 (greatestScore known terms))

/-- Results with positive scores that are at most one and do not increase. No node is there twice, and there are not more
results than the limit allows. -/
structure Graded (limit : Int) (found : List (Node × R)) : Prop where
  score : ∀ entry ∈ found, 0 < value entry.2 ∧ value entry.2 ≤ 1
  sorted : found.Pairwise fun better worse => value worse.2 ≤ value better.2
  once : (found.map (·.1.id)).Nodup
  few : 0 ≤ limit → (found.length : Int) ≤ limit

theorem graded_nil (limit : Int) : Graded limit ([] : List (Node × R)) where
  score _ hentry := absurd hentry List.not_mem_nil
  sorted := List.Pairwise.nil
  once := List.nodup_nil
  few hlimit := hlimit

omit [Scalar R] [Measured R] in
theorem cutAtLimit_sublist {α : Type} (limit : Int) (xs : List α) : (cutAtLimit limit xs).Sublist xs := by
  rw [cutAtLimit]
  split <;> exact List.take_sublist _ _

omit [Scalar R] [Measured R] in
theorem length_cutAtLimit_le {α : Type} {limit : Int} (hlimit : 0 ≤ limit) (xs : List α) :
    ((cutAtLimit limit xs).length : Int) ≤ limit := by
  rw [cutAtLimit, if_pos hlimit, List.length_take]
  omega

omit [Measured R] in
theorem nodup_map_fst_ranked (t : Tables R) (weights : List (String × R)) :
    ((ranked (scores t weights)).map (·.1)).Nodup := by
  rw [ranked, ((List.mergeSort_perm _ _).map _).nodup_iff]
  exact nodup_map_fst_scores t weights

omit [Measured R] in
theorem mem_scores_of_mem_cutAtLimit {limit : Int} {weights : List (String × R)} {entry : NodeId × R}
    (h : entry ∈ cutAtLimit limit (ranked (scores t weights))) : entry ∈ scores t weights :=
  (List.mergeSort_perm _ _).mem_iff.mp ((cutAtLimit_sublist _ _).subset h)

/-- **Whatever is found has its score in proportion to the greatest possible one**: nothing is cut down. -/
theorem eq_proportions_of_find {c : Connection R} (hc : c.view.Weighted) {limit : Int} {found : List (Node × R)}
    (h : find c known terms limit = .ok found) : found = proportions c.view known terms limit := by
  rw [eq_of_find_eq_ok h, proportions]
  refine List.filterMap_congr fun entry hentry => ?_
  have hmem := mem_scores_of_mem_cutAtLimit hentry
  rw [normalized_eq_div (value_greatest_pos (weigh_ne_nil_of_mem_scores hmem)).2 (value_score_le hc hmem).2]

/-- **Results in proportion to the greatest possible score** are graded. -/
theorem graded_proportions (ht : t.Weighted) (known : List (String × R)) (terms : List String) (limit : Int) :
    Graded limit (proportions t known terms limit) where
  score entry hentry := by
    obtain ⟨best, hbest, heq⟩ := List.mem_filterMap.mp hentry
    obtain ⟨r, -, rfl⟩ := Option.map_eq_some_iff.mp heq
    have hmem := mem_scores_of_mem_cutAtLimit hbest
    have hmost := (value_greatest_pos (weigh_ne_nil_of_mem_scores hmem)).2
    obtain ⟨hpos, hle⟩ := value_score_le ht hmem
    rw [value_div]
    exact ⟨div_pos hpos hmost, (div_le_one hmost).mpr hle⟩
  sorted := by
    have hsorted := (pairwise_ranked (scores t (weigh known terms))).sublist (cutAtLimit_sublist limit _)
    have hdivided : (cutAtLimit limit (ranked (scores t (weigh known terms)))).Pairwise fun better worse =>
        value (Scalar.div worse.2 (greatestScore known terms)) ≤
          value (Scalar.div better.2 (greatestScore known terms)) := by
      refine hsorted.imp_of_mem fun {a b} ha _ hle => ?_
      rw [value_div, value_div]
      have hweights := weigh_ne_nil_of_mem_scores (mem_scores_of_mem_cutAtLimit ha)
      exact div_le_div_of_nonneg_right hle (value_greatest_pos hweights).2.le
    refine hdivided.filterMap _ fun a b hle x hx y hy => ?_
    obtain ⟨_, -, rfl⟩ := Option.map_eq_some_iff.mp hx
    obtain ⟨_, -, rfl⟩ := Option.map_eq_some_iff.mp hy
    exact hle
  once := by
    have hdistinct := (List.pairwise_map.mp (nodup_map_fst_ranked t (weigh known terms))).sublist
      (cutAtLimit_sublist limit _)
    refine List.pairwise_map.mpr (hdistinct.filterMap _ fun a b hne x hx y hy => ?_)
    -- a row that is found has the identifier that it was looked up by
    obtain ⟨r, hr, rfl⟩ := Option.map_eq_some_iff.mp hx
    obtain ⟨r', hr', rfl⟩ := Option.map_eq_some_iff.mp hy
    change r.id ≠ r'.id
    rwa [(Tables.id_of_row?_eq_some hr).1, (Tables.id_of_row?_eq_some hr').1]
  few hlimit := by
    have hlength := length_cutAtLimit_le hlimit (ranked (scores t (weigh known terms)))
    have hfewer : (proportions t known terms limit).length ≤
        (cutAtLimit limit (ranked (scores t (weigh known terms)))).length := List.length_filterMap_le _ _
    omega

omit [Measured R] in
/-- **An answer is given** on an open connection, if neither the terms nor the results are too many. -/
theorem exists_find_eq_ok {c : Connection R} (hopen : c.isOpen = true) (known : List (String × R)) {terms : List String}
    (hterms : terms.length ≤ c.limits.maxVariables) {limit : ℕ} (hlimit : limit ≤ c.limits.maxVariables) :
    ∃ found, find c known terms limit = .ok found := by
  have hweights : (weigh known terms).length ≤ c.limits.maxVariables := (List.length_filterMap_le _ _).trans hterms
  have hbest : (cutAtLimit limit (ranked (scores c.view (weigh known terms)))).length ≤ c.limits.maxVariables := by
    have hlength := length_cutAtLimit_le (Int.natCast_nonneg limit) (ranked (scores c.view (weigh known terms)))
    omega
  unfold find
  dsimp only
  split
  · exact ⟨_, rfl⟩
  rw [if_neg (by simp [hopen]), if_neg (Nat.not_lt.mpr hweights)]
  split
  · exact ⟨_, rfl⟩
  · exact ⟨_, if_neg (Nat.not_lt.mpr hbest)⟩

/-! ## Sessions -/

namespace Session

/-- A session on an index with sound weights, that remembers graded results. -/
structure Scored (s : Session R) : Prop where
  index : s.connection.Holds Tables.Weighted
  results : ∀ entry ∈ s.engine.results, ∃ query limit, entry.1 = searchKey query limit ∧ Graded limit entry.2

variable {s : Session R}

/-- **What a search gives is graded**, also if it is remembered. -/
theorem Scored.graded (h : s.Scored) {query : String} {limit : Int} {found : List (Node × R)}
    (hfound : (s.search query limit).1 = .ok found) : Graded limit found := by
  have hfind : ∀ found, find s.connection s.reading.rarity (tokenize query) limit = .ok found → Graded limit found := by
    intro found hfound
    rw [eq_proportions_of_find h.index.view hfound]
    exact graded_proportions h.index.view _ _ _
  have hsearched := s.searched query limit
  generalize s.search query limit = result at hsearched hfound
  cases hsearched with
  | remembered earlier hearlier =>
    obtain rfl := Except.ok.inj hfound
    obtain ⟨query', limit', hkey, hgraded⟩ := h.results _ (mem_of_lookup hearlier)
    rwa [(searchKey_inj hkey).2]
  | empty =>
    obtain rfl := Except.ok.inj hfound
    exact graded_nil limit
  | closed => cases hfound
  | answered =>
    dsimp only at hfound
    exact hfind found hfound
  | found now _ _ _ hnow =>
    obtain rfl := Except.ok.inj hfound
    exact hfind _ hnow

/-- **Whatever a session meets with, it stays scored.** -/
theorem Scored.react (h : s.Scored) (event : Event R) : (s.react event).Scored where
  index := holds_react Tables.kept_weighted h.index event
  results entry hentry := by
    rcases mem_results_react hentry with hearlier | ⟨query, limit, hkey, hfound⟩
    · exact h.results entry hearlier
    · exact ⟨query, limit, hkey, h.graded hfound⟩

theorem Scored.reactAll (h : s.Scored) (events : List (Event R)) : (s.reactAll events).Scored := by
  induction events generalizing s with
  | nil => exact h
  | cons event rest ih => exact ih (h.react event)

/-- A search that is not remembered gives the best rows in proportion to the greatest possible score. -/
theorem Scored.eq_proportions (h : s.Scored) {query : String} {limit : Int} {found : List (Node × R)}
    (hnew : s.engine.results.lookup (searchKey query limit) = none) (hfound : (s.search query limit).1 = .ok found) :
    found = proportions s.connection.view s.reading.rarity (tokenize query) limit := by
  have hsearched := s.searched query limit
  generalize s.search query limit = result at hsearched hfound
  cases hsearched with
  | remembered earlier hearlier =>
    rw [hnew] at hearlier
    cases hearlier
  | empty _ hterms =>
    obtain rfl := Except.ok.inj hfound
    rw [hterms]
    simp [proportions, weigh, scores, ranked, cutAtLimit]
  | closed => cases hfound
  | answered =>
    dsimp only at hfound
    exact eq_proportions_of_find h.index.view hfound
  | found now _ _ _ hnow =>
    obtain rfl := Except.ok.inj hfound
    exact eq_proportions_of_find h.index.view hnow

omit [Measured R] in
theorem exists_search_eq_ok (hopen : s.connection.isOpen = true) {query : String}
    (hterms : (tokenize query).length ≤ s.connection.limits.maxVariables) {limit : ℕ}
    (hlimit : limit ≤ s.connection.limits.maxVariables) :
    ∃ found, (s.search query limit).1 = .ok found := by
  have hsearched := s.searched query limit
  generalize s.search query limit = result at hsearched
  cases hsearched with
  | remembered found => exact ⟨found, rfl⟩
  | empty => exact ⟨[], rfl⟩
  | closed _ _ _ hclosed =>
    rw [hopen] at hclosed
    cases hclosed
  | answered =>
    dsimp only
    exact exists_find_eq_ok hopen _ hterms hlimit
  | found found => exact ⟨found, rfl⟩

end Session

end Search

/-- **The scores of every search**, with exact sums, products and quotients, and with any limit that is not negative.
Start with an empty index and with nothing remembered, and let the engine be called and anything else be done on the
connection, in any order. Then the greatest possible score, by which a search divides, is positive if some term counts.
Every score in proportion to it is positive and at most one, so that cutting it down changes nothing. A search that is
not remembered gives the best rows with just these proportions. Every search gives results whose scores are positive, at
most one and do not increase, with no node twice and not more of them than the limit; and it does give results if the
connection is open, and neither the terms nor the limit are too many for one statement. -/
theorem search_graded (s : Session R) (hterms : s.connection.committed.terms = [])
    (hpending : s.connection.pending = none) (hresults : s.engine.results = []) (events : List (Event R))
    (query : String) (limit : ℕ) :
    let now := s.reactAll events
    let terms := tokenize query
    let known := now.reading.rarity
    let most := greatestScore known terms
    (weigh known terms ≠ [] → 0 < value most) ∧
      (∀ entry ∈ scores now.connection.view (weigh known terms),
        0 < value (Scalar.div entry.2 most) ∧ value (Scalar.div entry.2 most) ≤ 1 ∧
          normalized most entry.2 = Scalar.div entry.2 most) ∧
      (∀ found, (now.search query limit).1 = .ok found → Graded limit found ∧
        (now.engine.results.lookup (searchKey query limit) = none →
          found = proportions now.connection.view known terms limit)) ∧
      (now.connection.isOpen = true → terms.length ≤ now.connection.limits.maxVariables →
        limit ≤ now.connection.limits.maxVariables → ∃ found, (now.search query limit).1 = .ok found) := by
  intro now terms known most
  have hstart : s.Scored :=
    { index := Connection.holds_of_pending_eq_none (Tables.weighted_of_terms_eq_nil hterms) hpending
      results := fun entry hentry => absurd (hresults ▸ hentry) List.not_mem_nil }
  have hnow : now.Scored := hstart.reactAll events
  refine ⟨fun hweights => (value_greatest_pos hweights).2, fun entry hentry => ?_, fun found hfound => ?_, ?_⟩
  · have hmost := (value_greatest_pos (weigh_ne_nil_of_mem_scores hentry)).2
    obtain ⟨hpos, hle⟩ := value_score_le hnow.index.view hentry
    rw [value_div]
    exact ⟨div_pos hpos hmost, (div_le_one hmost).mpr hle, normalized_eq_div hmost hle⟩
  · exact ⟨hnow.graded hfound, fun hnew => hnow.eq_proportions hnew hfound⟩
  · exact fun hopen hfew hlimit => Session.exists_search_eq_ok hopen hfew hlimit

end Values

/-- The index is built, a digest is saved, another engine removes a function from the index, and a new engine searches for
three terms, two of which are the same. -/
theorem search_graded_after_changes :
    let s : Session ℝ := { connection := { committed := { nodes :=
      [functionRow (some "a") "fetch_users", functionRow none "load", functionRow (some "b") "fetch"] } } }
    let events : List (Event ℝ) := [.call .build, .operation (.saveDigest "a.py" "1" false),
      .operation (.call {} (.remove [some "b"])), .renewal]
    let now := s.reactAll events
    let terms := tokenize "fetch users users"
    let most := greatestScore now.reading.rarity terms
    s.connection.committed.terms = [] ∧ s.connection.pending = none ∧ s.engine.results = [] ∧
      now.connection.view.terms.map (fun r => (r.node, r.term)) =
        [(some "a", "fetch"), (some "a", "users"), (none, "load")] ∧
      weigh now.reading.rarity terms ≠ [] ∧ 0 < Measured.value most ∧
      ∃ found, (now.search "fetch users users" (1 : ℕ)).1 = .ok found ∧ Graded (1 : ℕ) found := by
  intro s events now terms most
  obtain ⟨hmost, -, hfound, hok⟩ := search_graded s rfl rfl rfl events "fetch users users" 1
  have hindex : now.connection.view.terms.map (fun r => (r.node, r.term)) =
      [(some "a", "fetch"), (some "a", "users"), (none, "load")] := by decide +kernel
  have hopen : now.connection.isOpen = true := by decide +kernel
  have hfew : terms.length ≤ now.connection.limits.maxVariables := by decide +kernel
  have hweights : weigh now.reading.rarity terms ≠ [] := by
    -- removing a function from the index leaves the rarities that were found for all functions
    have hreading : ∀ t : Tables ℝ,
        (({ connection := { committed := t } } : Session ℝ).reactAll events).reading.rarity =
          (Session.builtTables t).rarity := by
      intro t
      rw [Session.reactAll, List.foldl_cons, Session.react, Session.after, Session.build_of_isOpen rfl]
      rfl
    rw [hreading s.connection.committed, weigh_builtTables, Ne, List.map_eq_nil_iff]
    decide +kernel
  obtain ⟨found, hsearch⟩ := hok hopen hfew (by decide)
  exact ⟨rfl, rfl, rfl, hindex, hweights, hmost hweights, found, hsearch, (hfound found hsearch).1⟩

end CodeAtlas
