import Mathlib
import CodeAtlas.Proofs.Search.Indexed

/-!
# The search index in exact arithmetic

An exact number is a real number, together with the numbers whose logarithms were taken on the way to it. So the tables
of a search index over exact numbers tell which logarithms were computed for them. All these logarithms are taken of
numbers that are at least one, if no term is found in more documents than there are. The weight of a term of a document
is its number of occurrences in proportion to that of the most frequent term.

## Main definitions

* `Exact`: exact numbers
* `IsFrequency`: the relative frequency of a term of a text
* `Tables.SearchSound`: terms belong to searched rows

## Main results

* `Exact.atLeastOne_rarity`: when all logarithms of a rarity are taken of numbers that are at least one
* `isFrequency_of_mem_rows`: the weights of the terms of a document
* `Tables.searchSound_of_rows`, `Tables.searchSound_builtTables`: tables with the terms of some or all searched rows
-/

namespace CodeAtlas

open Store Search

/-! ## Exact numbers -/

/-- A real number, and the numbers whose logarithms were taken to compute it. -/
structure Exact where
  /-- The number. -/
  value : ℝ
  /-- The numbers whose logarithms were taken. -/
  arguments : List ℝ

namespace Exact

open Classical in
noncomputable instance : Scalar Exact where
  ratio m n := ⟨m / n, []⟩
  add x y := ⟨x.value + y.value, x.arguments ++ y.arguments⟩
  mul x y := ⟨x.value * y.value, x.arguments ++ y.arguments⟩
  div x y := ⟨x.value / y.value, x.arguments ++ y.arguments⟩
  log x := ⟨Real.log x.value, x.arguments ++ [x.value]⟩
  less x y := decide (x.value < y.value)

/-- A number that is at least one, and so are all numbers whose logarithms were taken to compute it. -/
def AtLeastOne (x : Exact) : Prop :=
  (∀ y ∈ x.arguments, 1 ≤ y) ∧ 1 ≤ x.value

theorem value_rarity (total found : Int) :
    (rarity total found : Exact).value = Real.log ((total + 1) / (found + 1)) + 1 := by
  change Real.log (((total + 1 : Int) : ℝ) / ((found + 1 : Int) : ℝ)) + ((1 : Int) : ℝ) / ((1 : Int) : ℝ) = _
  push_cast
  simp

theorem arguments_rarity (total found : Int) :
    (rarity total found : Exact).arguments = [((total : ℝ) + 1) / (found + 1)] := by
  change [] ++ [((total + 1 : Int) : ℝ) / ((found + 1 : Int) : ℝ)] ++ [] = _
  push_cast
  simp

/-- **The rarity of a term** that is found in some documents, of which there are not more than all of them. -/
theorem atLeastOne_rarity {total found : Int} (hfound : 0 ≤ found) (hle : found ≤ total) :
    (rarity total found : Exact).AtLeastOne := by
  have hpos : (0 : ℝ) < (found : ℝ) + 1 := by
    have hcast : (0 : ℝ) ≤ found := by exact_mod_cast hfound
    linarith
  have hcast : (found : ℝ) ≤ total := by exact_mod_cast hle
  have hargument : 1 ≤ ((total : ℝ) + 1) / (found + 1) := by
    rw [le_div_iff₀ hpos]
    linarith
  refine ⟨fun y hy => ?_, ?_⟩
  · rw [arguments_rarity, List.mem_singleton] at hy
    rwa [hy]
  · rw [value_rarity]
    have hlog := Real.log_nonneg hargument
    linarith

end Exact

/-! ## Relative frequencies -/

/-- The relative frequency of a term of a text: its number of occurrences in proportion to that of a most frequent
term. -/
def IsFrequency (terms : List String) (term : String) (x : ℝ) : Prop :=
  term ∈ terms ∧ ∃ most ∈ terms, (∀ other, terms.count other ≤ terms.count most) ∧
    x = terms.count term / terms.count most

/-- The greatest number of occurrences is that of some term. -/
theorem exists_most_frequent {terms : List String} (hne : terms ≠ []) :
    ∃ most ∈ terms, (∀ other, terms.count other ≤ terms.count most) ∧
      ((termCounts terms).map (·.2)).foldl max 0 = terms.count most := by
  have hgreatest : (0 :: (termCounts terms).map (·.2)).max? =
      some (((termCounts terms).map (·.2)).foldl max 0) := List.max?_cons'
  obtain ⟨hmem, hle⟩ := List.max?_eq_some_iff.mp hgreatest
  have hcounts : ∀ n, n ∈ (termCounts terms).map (·.2) ↔ ∃ term ∈ terms, terms.count term = n := by
    simp [termCounts]
  have hbound : ∀ other, terms.count other ≤ ((termCounts terms).map (·.2)).foldl max 0 := by
    intro other
    by_cases hother : other ∈ terms
    · exact hle _ (List.mem_cons_of_mem _ ((hcounts _).mpr ⟨other, hother, rfl⟩))
    · rw [List.count_eq_zero_of_not_mem hother]
      exact Nat.zero_le _
  rcases List.mem_cons.mp hmem with hzero | hmem
  · -- some term occurs, so zero is not the greatest number
    obtain ⟨term, hterm⟩ := List.exists_mem_of_ne_nil _ hne
    have hpos := List.count_pos_iff.mpr hterm
    have := hbound term
    omega
  · obtain ⟨most, hmost, hcount⟩ := (hcounts _).mp hmem
    exact ⟨most, hmost, fun other => hcount ▸ hbound other, hcount.symm⟩

/-- **The weights of the terms of a document** are their relative frequencies. -/
theorem isFrequency_of_mem_rows {d : Document} {x : TermRow Exact} (h : x ∈ d.rows) :
    x.node = d.id ∧ IsFrequency d.terms x.term x.weight.value := by
  refine ⟨node_of_mem_rows h, ?_⟩
  have hterm : x.term ∈ d.terms := exists_mem_rows.mp ⟨x, h, rfl⟩
  obtain ⟨most, hmost, hle, hgreatest⟩ := exists_most_frequent (List.ne_nil_of_mem hterm)
  refine ⟨hterm, most, hmost, hle, ?_⟩
  simp only [Document.rows, termWeights, hgreatest, List.map_map, List.mem_map] at h
  obtain ⟨⟨term, n⟩, hn, rfl⟩ := h
  simp only [termCounts, List.mem_map, Prod.mk.injEq] at hn
  obtain ⟨_, -, rfl, rfl⟩ := hn
  change (((d.terms.count _ : Nat) : Int) : ℝ) / (((d.terms.count most : Nat) : Int) : ℝ) = _
  push_cast
  rfl

/-! ## Sound tables -/

theorem Search.Document.terms_ofRow (r : NodeRow) :
    (ofRow r).terms = tokenize (searchableText (some r.name) r.signature r.docstring) := by
  rw [ofRow]

namespace Store.Tables

/-- Every term belongs to a searched row, occurs in the text of the row with its weight as relative frequency, and has a
rarity. -/
def SearchSound (t : Tables Exact) : Prop :=
  ∀ x ∈ t.terms, x.term ∈ t.rarity.map (·.1) ∧ ∃ r ∈ t.nodes, r.id = x.node ∧ r.isSearchable = true ∧
    IsFrequency (tokenize (searchableText (some r.name) r.signature r.docstring)) x.term x.weight.value

/-- **Tables with the terms of some searched rows**, and with a rarity for each of them, are sound. -/
theorem searchSound_of_rows {t : Tables Exact} (rows : List NodeRow)
    (hrows : ∀ r ∈ rows, r ∈ t.nodes ∧ r.isSearchable = true) (hterms : t.terms = termRows (rows.map Document.ofRow))
    (hrarity : t.rarity.map (·.1) = allTerms (rows.map Document.ofRow)) : t.SearchSound := by
  intro x hx
  rw [hterms, termRows, onePerId, List.mem_flatMap] at hx
  obtain ⟨d, hd, hx⟩ := hx
  -- a document may take the place of another one, but all of them are documents of the rows
  have hdocument := (mem_of_mem_foldl_putDocument hd).resolve_left List.not_mem_nil
  obtain ⟨r, hr, rfl⟩ := List.mem_map.mp hdocument
  obtain ⟨hnode, hfrequency⟩ := isFrequency_of_mem_rows hx
  have hrare : x.term ∈ t.rarity.map (·.1) := by
    rw [hrarity, mem_allTerms]
    exact ⟨_, hdocument, hfrequency.1⟩
  rw [Document.terms_ofRow] at hfrequency
  exact ⟨hrare, r, (hrows r hr).1, hnode.symm, (hrows r hr).2, hfrequency⟩

/-- After the index was built for all searched rows, it is sound. -/
theorem searchSound_builtTables (t : Tables Exact) : (Session.builtTables t).SearchSound :=
  searchSound_of_rows t.searchable (fun _ hr => mem_searchable.mp hr) rfl (map_fst_rarityTable _)

end Store.Tables

end CodeAtlas
