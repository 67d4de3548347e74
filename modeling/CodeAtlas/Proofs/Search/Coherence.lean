import Mathlib
import CodeAtlas.Proofs.Search.Session

/-!
# Engines that keep in step with their tables

A search engine remembers rarities and results of searches. As long as only the engine writes to the tables, what it
remembers agrees with them: it knows no rarities, or exactly those of the table, and a remembered result is what a new
engine would find. Every operation keeps this, with all its early ends and failures. So a search never tells an old
engine from a new one.

The greatest rarity is found by comparing the rarities one by one, in the order in which the engine knows them, and this
may be another order than that of the table. So the rarities have to be numbers that compare like numbers.

## Main definitions

* `Linear`: numbers that compare like numbers
* `Session.Coherent`: an engine that is in step with its tables

## Main results

* `searchKey_inj`: searches with different queries or limits are remembered under different names
* `greatest_eq_of_perm`: the greatest number of a table does not depend on the order
* `Session.Coherent.run`: all operations keep an engine in step
* `search_run_eq_search_anew`: an engine that was used finds what a new engine finds
-/

namespace CodeAtlas

open Store Search

namespace Search

/-! ## Names of searches -/

theorem colon_not_mem_repr (n : Nat) : ':' ∉ n.repr.toList := by
  rw [Nat.toList_repr]
  intro hmem
  exact absurd (Nat.isDigit_of_mem_toDigits (by decide) (by decide) hmem) (by decide)

theorem colon_not_mem_toString (n : Int) : ':' ∉ (toString n).toList := by
  cases n with
  | ofNat n => exact colon_not_mem_repr n
  | negSucc n =>
    change ':' ∉ ("-" ++ n.succ.repr).toList
    rw [String.toList_append, List.mem_append, not_or]
    exact ⟨by decide, colon_not_mem_repr _⟩

/-- **Searches with different queries or limits** have different names: what follows the last colon is the limit. -/
theorem searchKey_inj {query query' : String} {limit limit' : Int}
    (h : searchKey query limit = searchKey query' limit') : query = query' ∧ limit = limit' := by
  have hchars := congrArg String.toList h
  simp only [searchKey, String.toList_append, List.append_assoc] at hchars
  obtain ⟨hquery, hlimit⟩ :=
    Text.eq_of_append_cons_eq (colon_not_mem_toString limit) (colon_not_mem_toString limit') hchars
  exact ⟨String.toList_inj.mp hquery, Int.repr_inj.mp (String.toList_inj.mp hlimit)⟩

/-! ## Tables of pairs -/

section Pairs

variable {V : Type} {table other : List (String × V)} {key : String} {value : V}

theorem lookup_eq_some_iff_mem (hkeys : (table.map (·.1)).Nodup) : table.lookup key = some value ↔ (key, value) ∈ table := by
  induction table with
  | nil => simp
  | cons entry rest ih =>
    obtain ⟨k, v⟩ := entry
    obtain ⟨hk, hrest⟩ := List.nodup_cons.mp hkeys
    rw [List.lookup_cons, List.mem_cons, Prod.mk.injEq]
    by_cases hkey : key = k
    · subst hkey
      have hnot : (key, value) ∉ rest := fun hm => hk (List.mem_map.mpr ⟨_, hm, rfl⟩)
      simp [hnot, eq_comm]
    · rw [beq_eq_false_iff_ne.mpr hkey]
      simp [hkey, ih hrest]

/-- Looking up a key does not depend on the order of the table. -/
theorem lookup_eq_of_perm (hperm : table.Perm other) (hkeys : (table.map (·.1)).Nodup) :
    table.lookup key = other.lookup key := by
  refine Option.ext fun value => ?_
  rw [lookup_eq_some_iff_mem hkeys, lookup_eq_some_iff_mem ((hperm.map _).nodup_iff.mp hkeys), hperm.mem_iff]

theorem putValue_of_mem (hkeys : (table.map (·.1)).Nodup) (h : (key, value) ∈ table) :
    putValue key value table = table := by
  induction table with
  | nil => cases h
  | cons entry rest ih =>
    obtain ⟨k, v⟩ := entry
    obtain ⟨hk, hrest⟩ := List.nodup_cons.mp hkeys
    rw [putValue]
    rcases List.mem_cons.mp h with heq | hm
    · obtain ⟨rfl, rfl⟩ := Prod.mk.inj heq
      rw [if_pos rfl]
    · have hne : k ≠ key := by
        rintro rfl
        exact hk (List.mem_map.mpr ⟨_, hm, rfl⟩)
      rw [if_neg hne, ih hrest hm]

/-- A value that is put in its place is the one that is put at the end. -/
theorem putValue_perm_putLast (hkeys : (table.map (·.1)).Nodup) :
    (putValue key value table).Perm (Tables.putLast key value table) := by
  unfold Tables.putLast
  induction table with
  | nil => exact List.Perm.refl _
  | cons entry rest ih =>
    obtain ⟨k, v⟩ := entry
    obtain ⟨hk, hrest⟩ := List.nodup_cons.mp hkeys
    rw [putValue]
    by_cases hkey : k = key
    · subst hkey
      have hothers : rest.filter (·.1 != k) = rest := by
        refine List.filter_eq_self.mpr fun entry hm => ?_
        simpa using fun heq : entry.1 = k => hk (List.mem_map.mpr ⟨entry, hm, heq⟩)
      rw [if_pos rfl, List.filter_cons_of_neg (by simp), hothers]
      exact (List.perm_append_singleton _ _).symm
    · rw [if_neg hkey, List.filter_cons_of_pos (by simpa using hkey), List.cons_append]
      exact (ih hrest).cons _

theorem nodup_keys_putLast (hkeys : (table.map (·.1)).Nodup) :
    ((Tables.putLast key value table).map (·.1)).Nodup := by
  rw [Tables.putLast, List.map_append]
  refine ((List.filter_sublist.map _).nodup hkeys).append (List.nodup_singleton _) ?_
  simp

/-- Reading a table again changes nothing. -/
theorem putAll_perm (hkeys : (other.map (·.1)).Nodup) (h : table = [] ∨ table.Perm other) :
    (putAll table other).Perm other := by
  unfold putAll
  split
  · exact List.Perm.refl _
  next hne =>
  have hperm : table.Perm other := h.resolve_left fun hnil => hne (by rw [hnil]; rfl)
  have hsame : ∀ pairs : List (String × V), pairs ⊆ table →
      pairs.foldl (fun t pair => putValue pair.1 pair.2 t) table = table := by
    intro pairs
    induction pairs with
    | nil => exact fun _ => rfl
    | cons pair rest ih =>
      intro hsub
      obtain ⟨hmem, hrest⟩ := List.cons_subset.mp hsub
      rw [List.foldl_cons, putValue_of_mem ((hperm.map _).nodup_iff.mpr hkeys) hmem, ih hrest]
  exact (List.Perm.of_eq (hsame other hperm.symm.subset)).trans hperm

end Pairs

/-! ## Numbers that compare like numbers -/

variable {R : Type} [Scalar R]

/-- The numbers of a list compare like numbers: `less` is a strict linear order on them. -/
structure Linear (xs : List R) : Prop where
  irrefl : ∀ x ∈ xs, Scalar.less x x = false
  trans : ∀ x ∈ xs, ∀ y ∈ xs, ∀ z ∈ xs, Scalar.less x y = true → Scalar.less y z = true → Scalar.less x z = true
  total : ∀ x ∈ xs, ∀ y ∈ xs, Scalar.less x y = true ∨ x = y ∨ Scalar.less y x = true

open Classical in
/-- Real numbers. -/
noncomputable instance : Scalar ℝ where
  ratio m n := m / n
  add x y := x + y
  mul x y := x * y
  div x y := x / y
  log := Real.log
  less x y := decide (x < y)

theorem less_real_iff {x y : ℝ} : Scalar.less x y = true ↔ x < y := by
  change decide (x < y) = true ↔ _
  exact decide_eq_true_iff

theorem zero_real : (Scalar.zero : ℝ) = 0 := by
  change ((0 : ℤ) : ℝ) / ((1 : ℤ) : ℝ) = 0
  simp

theorem one_real : (Scalar.one : ℝ) = 1 := by
  change ((1 : ℤ) : ℝ) / ((1 : ℤ) : ℝ) = 1
  simp

theorem linear_real (xs : List ℝ) : Linear xs where
  irrefl x _ := by
    rw [Bool.eq_false_iff, Ne, less_real_iff]
    exact lt_irrefl x
  trans x _ y _ z _ hxy hyz := less_real_iff.mpr ((less_real_iff.mp hxy).trans (less_real_iff.mp hyz))
  total x _ y _ := by
    simp only [less_real_iff]
    exact lt_trichotomy x y

theorem Linear.of_perm {xs ys : List R} (h : Linear xs) (hperm : xs.Perm ys) : Linear ys where
  irrefl x hx := h.irrefl x (hperm.mem_iff.mpr hx)
  trans x hx y hy z hz := h.trans x (hperm.mem_iff.mpr hx) y (hperm.mem_iff.mpr hy) z (hperm.mem_iff.mpr hz)
  total x hx y hy := h.total x (hperm.mem_iff.mpr hx) y (hperm.mem_iff.mpr hy)

/-- The greatest number of a table is one of its numbers, and none is greater. -/
theorem greatest_spec {table : List (String × R)} (hne : table ≠ []) (h : Linear (table.map (·.2))) :
    greatest table ∈ table.map (·.2) ∧ ∀ y ∈ table.map (·.2), Scalar.less (greatest table) y = false := by
  obtain ⟨⟨key, x⟩, rest, rfl⟩ := List.exists_cons_of_ne_nil hne
  -- the greatest number so far is among the numbers met so far, and none of these is greater
  have hfold : ∀ (later : List (String × R)) (met : List R) (m : R), Linear (met ++ later.map (·.2)) → m ∈ met →
      (∀ y ∈ met, Scalar.less m y = false) →
      later.foldl (fun m entry => Scalar.max m entry.2) m ∈ met ++ later.map (·.2) ∧
        ∀ y ∈ met ++ later.map (·.2), Scalar.less (later.foldl (fun m entry => Scalar.max m entry.2) m) y = false := by
    intro later
    induction later with
    | nil =>
      intro met m _ hm hgreatest
      simpa using ⟨hm, hgreatest⟩
    | cons entry later ih =>
      intro met m hlinear hm hgreatest
      obtain ⟨k, z⟩ := entry
      have hz : z ∈ met ++ ((k, z) :: later).map (·.2) := by simp
      have hmet : ∀ y ∈ met, y ∈ met ++ ((k, z) :: later).map (·.2) := fun y hy => List.mem_append_left _ hy
      have hsplit : met ++ ((k, z) :: later).map (·.2) = (met ++ [z]) ++ later.map (·.2) := by simp
      rw [List.foldl_cons, hsplit]
      rw [hsplit] at hlinear hz hmet
      refine ih (met ++ [z]) _ hlinear ?_ ?_
      · unfold Scalar.max
        split
        · simp
        · simp [hm]
      · intro y hy
        rcases List.mem_append.mp hy with hy | hy
        · unfold Scalar.max
          split
          · next hless =>
            -- a number greater than the new one would be greater than the old one
            by_contra hnot
            have := hlinear.trans m (hmet m hm) z hz y (hmet y hy) hless (by simpa using hnot)
            rw [hgreatest y hy] at this
            cases this
          · exact hgreatest y hy
        · obtain rfl := List.mem_singleton.mp hy
          unfold Scalar.max
          split
          · exact hlinear.irrefl _ hz
          · next hless => simpa using hless
  have hx : Scalar.less x x = false := h.irrefl x (by simp)
  have hgreatest : greatest ((key, x) :: rest) = rest.foldl (fun m entry => Scalar.max m entry.2) x := rfl
  rw [hgreatest]
  simpa using hfold rest [x] x (by simpa using h) (by simp) (by simpa using hx)

/-- **The greatest number of a table** does not depend on the order of the table. -/
theorem greatest_eq_of_perm {table other : List (String × R)} (hperm : table.Perm other)
    (h : Linear (table.map (·.2))) : greatest table = greatest other := by
  by_cases hne : table = []
  · subst hne
    rw [hperm.nil_eq]
  have hne' : other ≠ [] := fun hnil => hne (List.perm_nil.mp (hnil ▸ hperm))
  obtain ⟨hmem, hle⟩ := greatest_spec hne h
  obtain ⟨hmem', hle'⟩ := greatest_spec hne' (h.of_perm (hperm.map _))
  rw [← (hperm.map _).mem_iff] at hmem'
  rcases h.total _ hmem _ hmem' with hless | heq | hless
  · rw [hle _ hmem'] at hless
    cases hless
  · exact heq
  · rw [hle' _ ((hperm.map _).mem_iff.mp hmem)] at hless
    cases hless

/-- What is found does not depend on the order in which the rarities are known. -/
theorem find_eq_of_perm (c : Connection R) {known table : List (String × R)} (hperm : known.Perm table)
    (hkeys : (known.map (·.1)).Nodup) (h : Linear (known.map (·.2))) (terms : List String) (limit : Int) :
    find c known terms limit = find c table terms limit := by
  have hweigh : weigh known terms = weigh table terms := by
    unfold weigh
    simp only [lookup_eq_of_perm hperm hkeys]
  rw [find, find, hweigh, greatest_eq_of_perm hperm h]

namespace Session

/-! ## Engines in step -/

/-- An engine that is in step with its tables: it knows no rarities or those of the table, and what it remembers of
earlier searches is what a new engine finds. -/
structure Coherent (s : Session R) : Prop where
  /-- Every term has one rarity. -/
  keys : (s.connection.view.rarity.map (·.1)).Nodup
  known : s.engine.rarity = [] ∨ s.engine.rarity.Perm s.connection.view.rarity
  loaded : s.engine.loaded = true → s.connection.isOpen = true ∧ s.engine.rarity.Perm s.connection.view.rarity
  results : Linear (s.connection.view.rarity.map (·.2)) → ∀ query limit found,
    s.engine.results.lookup (searchKey query limit) = some found → (s.anew.search query limit).1 = .ok found

variable {s : Session R}

/-- A new engine is in step. -/
theorem coherent_anew (hkeys : (s.connection.view.rarity.map (·.1)).Nodup) : s.anew.Coherent where
  keys := hkeys
  known := Or.inl rfl
  loaded hloaded := by cases hloaded
  results _ _ _ _ hfound := by cases hfound

/-- An engine that remembers no results is in step if its rarities are. -/
theorem coherent_of_forgotten (hkeys : (s.connection.view.rarity.map (·.1)).Nodup)
    (hknown : s.engine.rarity = [] ∨ s.engine.rarity.Perm s.connection.view.rarity)
    (hloaded : s.engine.loaded = true → s.connection.isOpen = true ∧ s.engine.rarity.Perm s.connection.view.rarity)
    (hresults : s.engine.results = []) : s.Coherent where
  keys := hkeys
  known := hknown
  loaded := hloaded
  results _ query limit found hfound := by
    rw [hresults] at hfound
    cases hfound

theorem Coherent.forget (h : s.Coherent) : ({ s with engine := s.engine.forget } : Session R).Coherent :=
  coherent_of_forgotten h.keys h.known h.loaded rfl

/-- Taking terms out of the index does not touch the rarities. -/
theorem Coherent.dropTerms (h : s.Coherent) (ids : List NodeId) :
    (⟨(s.connection.write (·.dropTerms ids)).commit, s.engine.forget⟩ : Session R).Coherent :=
  coherent_of_forgotten h.keys h.known h.loaded rfl

/-- The index is built with one rarity for each term. -/
theorem nodup_keys_builtTables (t : Tables R) : ((builtTables t).rarity.map (·.1)).Nodup := by
  rw [builtTables, map_fst_rarityTable]
  exact nodup_eraseDups _

/-- Building the index brings any engine into step. -/
theorem coherent_build (hopen : s.connection.isOpen = true) : s.build.2.Coherent := by
  rw [build_of_isOpen hopen]
  exact coherent_of_forgotten (nodup_keys_builtTables _) (Or.inr (List.Perm.refl _)) (fun hloaded => by cases hloaded) rfl

theorem Coherent.build (h : s.Coherent) : s.build.2.Coherent := by
  cases hopen : s.connection.isOpen with
  | false =>
    rw [build_of_closed hopen]
    exact coherent_of_forgotten h.keys (Or.inl rfl) (fun hloaded => by cases hloaded) rfl
  | true => exact coherent_build hopen

theorem Coherent.remove (h : s.Coherent) (ids : List NodeId) : (s.remove ids).2.Coherent := by
  rcases s.remove_cases ids with heq | ⟨f, heq⟩ | heq
  · rwa [heq]
  · rw [heq]
    exact h.forget
  · rw [heq]
    exact h.dropTerms ids

/-! ### Bringing up to date -/

omit [Scalar R] in
/-- The engine that brings the index up to date knows the rarities of the table. -/
theorem counting_perm (hkeys : (s.connection.view.rarity.map (·.1)).Nodup)
    (hknown : s.engine.rarity = [] ∨ s.engine.rarity.Perm s.connection.view.rarity) (delta : Int) :
    (s.counting delta).rarity.Perm s.connection.view.rarity := by
  unfold counting
  split
  · next hempty =>
    rw [List.isEmpty_iff] at hempty
    exact putAll_perm hkeys (Or.inl hempty)
  · next hne => exact hknown.resolve_left fun hnil => hne (List.isEmpty_iff.mpr hnil)

omit [Scalar R] in
/-- New rarities go into what the engine knows as they go into the table. -/
theorem learning_perm (values : List (String × R)) {e : Engine R} {t : Tables R} (hperm : e.rarity.Perm t.rarity)
    (hkeys : (t.rarity.map (·.1)).Nodup) :
    (learning values e).rarity.Perm (values.foldl (fun t value => t.putRarity value.1 value.2) t).rarity ∧
      ((values.foldl (fun t value => t.putRarity value.1 value.2) t).rarity.map (·.1)).Nodup := by
  induction values generalizing e t with
  | nil => exact ⟨hperm, hkeys⟩
  | cons value rest ih =>
    have hput : (putValue value.1 value.2 e.rarity).Perm (t.putRarity value.1 value.2).rarity :=
      (putValue_perm_putLast ((hperm.map _).nodup_iff.mpr hkeys)).trans ((hperm.filter _).append_right _)
    exact ih (e := { e with rarity := putValue value.1 value.2 e.rarity }) hput (nodup_keys_putLast hkeys)

omit [Scalar R] in
theorem counting_results (delta : Int) : (s.counting delta).results = [] := by
  unfold counting
  split <;> rfl

/-- Bringing the index up to date keeps an engine in step, also if it fails half-way. -/
theorem Coherent.update (h : s.Coherent) (ids : List NodeId) (delta : Int) : (s.update ids delta).2.Coherent := by
  have hupdated := s.updated ids delta
  generalize s.update ids delta = result at hupdated ⊢
  cases hupdated with
  | nothing => exact h
  | refused => exact h.forget
  | dropped => exact h.dropTerms ids
  | failed f _ hopen =>
    have hperm := counting_perm h.keys h.known delta
    exact coherent_of_forgotten h.keys (Or.inr hperm) (fun _ => ⟨hopen, hperm⟩) (counting_results delta)
  | indexed values _ hopen =>
    obtain ⟨hperm, hkeys⟩ :=
      learning_perm values (t := s.connection.view.dropTerms ids) (counting_perm h.keys h.known delta) h.keys
    exact coherent_of_forgotten hkeys (Or.inr hperm) (fun _ => ⟨hopen, hperm⟩) (counting_results delta)

/-! ### Searching -/

/-- The engine that a search computes with knows the rarities of the table. -/
theorem Coherent.reading_perm (h : s.Coherent) : s.reading.rarity.Perm s.connection.view.rarity := by
  unfold reading
  split
  · next hloaded => exact (h.loaded hloaded).2
  · exact putAll_perm h.keys h.known

omit [Scalar R] in
theorem reading_results : s.reading.results = s.engine.results := by
  unfold reading
  split <;> rfl

theorem Coherent.isOpen_of_ready (h : s.Coherent) (hready : s.engine.loaded = true ∨ s.connection.isOpen = true) :
    s.connection.isOpen = true :=
  hready.elim (fun hloaded => (h.loaded hloaded).1) id

/-- What an engine in step finds in the tables is what a new engine finds. -/
theorem Coherent.find_reading_eq (h : s.Coherent) (hlinear : Linear (s.connection.view.rarity.map (·.2)))
    {query : String} (hterms : tokenize query ≠ []) (hopen : s.connection.isOpen = true) (limit : Int) :
    find s.connection s.reading.rarity (tokenize query) limit = (s.anew.search query limit).1 := by
  have hperm := h.reading_perm
  rw [search_anew, if_neg hterms, if_neg (by simp [hopen])]
  exact find_eq_of_perm s.connection hperm ((hperm.map _).nodup_iff.mpr h.keys)
    (hlinear.of_perm (hperm.map _).symm) _ _

/-- **An engine in step finds what a new engine finds.** -/
theorem Coherent.search_eq (h : s.Coherent) (hlinear : Linear (s.connection.view.rarity.map (·.2))) (query : String)
    (limit : Int) : (s.search query limit).1 = (s.anew.search query limit).1 := by
  have hsearched := s.searched query limit
  generalize s.search query limit = result at hsearched ⊢
  cases hsearched with
  | remembered found hfound => exact (h.results hlinear query limit found hfound).symm
  | empty _ hterms => rw [search_anew, if_pos hterms]
  | closed _ hterms _ hclosed => rw [search_anew, if_neg hterms, if_pos hclosed]
  | answered _ hterms hready =>
    rw [← h.find_reading_eq hlinear hterms (h.isOpen_of_ready hready) limit]
  | found found _ hterms hready hfound =>
    rw [← h.find_reading_eq hlinear hterms (h.isOpen_of_ready hready) limit, hfound]

/-- A search keeps an engine in step: it remembers what a new engine would have found. -/
theorem Coherent.search (h : s.Coherent) (query : String) (limit : Int) : (s.search query limit).2.Coherent := by
  have hsearched := s.searched query limit
  generalize s.search query limit = result at hsearched ⊢
  cases hsearched with
  | remembered => exact h
  | empty => exact h
  | closed => exact h
  | answered _ hterms hready =>
    have hperm := h.reading_perm
    refine ⟨h.keys, Or.inr hperm, fun _ => ⟨h.isOpen_of_ready hready, hperm⟩, fun hlinear => ?_⟩
    intro query' limit' found' hfound'
    exact h.results hlinear query' limit' found' (reading_results ▸ hfound')
  | found found hnew hterms hready hfound =>
    have hperm := h.reading_perm
    refine ⟨h.keys, Or.inr hperm, fun _ => ⟨h.isOpen_of_ready hready, hperm⟩, fun hlinear => ?_⟩
    intro query' limit' found' hfound'
    -- either an earlier search is remembered, or this one
    change (s.reading.results ++ [(searchKey query limit, found)]).lookup (searchKey query' limit') = _ at hfound'
    rw [reading_results, List.lookup_append] at hfound'
    cases hearlier : s.engine.results.lookup (searchKey query' limit') with
    | some earlier =>
      rw [hearlier, Option.some_or] at hfound'
      exact h.results hlinear query' limit' found' (hearlier.trans hfound')
    | none =>
      rw [hearlier, Option.none_or, List.lookup_cons] at hfound'
      split at hfound'
      · next hkey =>
        obtain ⟨rfl, rfl⟩ := searchKey_inj (beq_iff_eq.mp hkey)
        obtain rfl := Option.some.inj hfound'
        change (s.anew.search _ _).1 = _
        rw [← h.find_reading_eq hlinear hterms (h.isOpen_of_ready hready), hfound]
      · cases hfound'

/-- **Every call keeps an engine in step.** -/
theorem Coherent.after (h : s.Coherent) (call : Call) : (s.after call).Coherent := by
  cases call with
  | build => exact h.build
  | update ids delta => exact h.update ids delta
  | remove ids => exact h.remove ids
  | search query limit => exact h.search query limit

/-- All calls keep an engine in step. -/
theorem Coherent.run (h : s.Coherent) (calls : List Call) : (s.run calls).Coherent := by
  induction calls generalizing s with
  | nil => exact h
  | cons call rest ih => exact ih (h.after call)

end Session

end Search

/-- **An engine that was used finds what a new engine finds**, and fails as it does. On any connection, after any calls
of a new engine, with any arguments and outcomes, every search gives the result that a new engine on the same connection
gives, whatever it remembers. The table of rarities has one row for each term, and at the time of the search its
rarities are numbers that compare like numbers; real numbers always are. -/
theorem search_run_eq_search_anew {R : Type} [Scalar R] (c : Connection R) (hkeys : (c.view.rarity.map (·.1)).Nodup)
    (calls : List Call) (query : String) (limit : Int) :
    let s := ({ connection := c } : Session R).run calls
    Linear (s.connection.view.rarity.map (·.2)) →
      (s.search query limit).1 = (({ connection := s.connection } : Session R).search query limit).1 := by
  intro s hlinear
  have hnew : ({ connection := c } : Session R).Coherent :=
    Session.coherent_anew (s := { connection := c }) hkeys
  exact (hnew.run calls).search_eq hlinear query limit

/-- The row of a function that has a name only. -/
def functionRow (id : NodeId) (name : String) : NodeRow where
  id := id
  parent := none
  name := name
  kind := "function"
  filePath := none
  firstLine := none
  lastLine := none
  signature := none
  docstring := none
  calls := none
  bases := none
  language := none

/-- An engine searches, brings a function up to date whose term is new, removes another one, and searches again. -/
theorem search_after_changes_eq_search_anew :
    let c : Connection ℝ := { committed :=
      { nodes := [functionRow (some "a") "load", functionRow (some "b") "fetch"], rarity := [("fetch", 1)] } }
    let calls : List Call :=
      [.search "fetch" 5, .update [some "a", some "b"] 1, .search "fetch" 5, .remove [some "b"], .search "load" 5]
    let s := ({ connection := c } : Session ℝ).run calls
    (c.view.rarity.map (·.1)).Nodup ∧ Linear (s.connection.view.rarity.map (·.2)) ∧
      (s.search "load" 5).1 = (({ connection := s.connection } : Session ℝ).search "load" 5).1 := by
  intro c calls s
  have hkeys : (c.view.rarity.map (·.1)).Nodup := List.nodup_singleton _
  have hlinear : Linear (s.connection.view.rarity.map (·.2)) := linear_real _
  exact ⟨hkeys, hlinear, search_run_eq_search_anew c hkeys calls "load" 5 hlinear⟩

end CodeAtlas
