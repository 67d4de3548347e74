import Mathlib
import CodeAtlas.Proofs.Search.Coherence

/-!
# Numbers that stand for real numbers

What is said about the scores of searches is said in exact arithmetic, but not about real numbers only. The numbers of an
index may be any that stand for real numbers, such that the sums, products and quotients of a search are exact. Nothing
is asked of logarithms, and relative frequencies may be rounded.

## Main definitions

* `Measured`: numbers that stand for real numbers

## Main results

* `value_le_value_greatest`, `value_greatest_pos`: the greatest rarity, and the greatest possible score
* `normalized_eq_div`: which scores are not cut down
* `pairwise_ranked`: scores are ranked, greatest first
-/

namespace CodeAtlas

open Store Search

namespace Search

/-- Numbers that stand for real numbers. Whole numbers, sums, products, quotients and comparisons are exact. A quotient
of two whole numbers may be rounded, if it stays positive and at most one. -/
class Measured (R : Type) [Scalar R] where
  /-- The real number that a number stands for. -/
  value : R → ℝ
  value_whole (n : ℤ) : value (Scalar.ratio n 1) = n
  value_frequency {m n : ℤ} (hm : 0 < m) (hle : m ≤ n) :
    0 < value (Scalar.ratio m n) ∧ value (Scalar.ratio m n) ≤ 1
  value_add (x y : R) : value (Scalar.add x y) = value x + value y
  value_mul (x y : R) : value (Scalar.mul x y) = value x * value y
  value_div (x y : R) : value (Scalar.div x y) = value x / value y
  less_iff {x y : R} : Scalar.less x y = true ↔ value x < value y

/-- Real numbers stand for themselves. -/
noncomputable instance : Measured ℝ where
  value x := x
  value_whole n := by
    change (n : ℝ) / ((1 : ℤ) : ℝ) = n
    simp
  value_frequency {m n} hm hle := by
    have hm' : (0 : ℝ) < m := by exact_mod_cast hm
    have hle' : (m : ℝ) ≤ n := by exact_mod_cast hle
    exact ⟨div_pos hm' (hm'.trans_le hle'), (div_le_one (hm'.trans_le hle')).mpr hle'⟩
  value_add _ _ := rfl
  value_mul _ _ := rfl
  value_div _ _ := rfl
  less_iff := less_real_iff

end Search

section Values

open Measured

variable {R : Type} [Scalar R] [Measured R]

namespace Search

theorem value_zero : value (Scalar.zero : R) = 0 := by
  rw [Scalar.zero, value_whole, Int.cast_zero]

theorem value_one : value (Scalar.one : R) = 1 := by
  rw [Scalar.one, value_whole, Int.cast_one]

theorem value_max (x y : R) : value (Scalar.max x y) = max (value x) (value y) := by
  rw [Scalar.max]
  split
  · next hless => exact (max_eq_right (less_iff.mp hless).le).symm
  · next hless => exact (max_eq_left (not_lt.mp (mt less_iff.mpr hless))).symm

/-- **No known number is greater than the greatest one.** -/
theorem value_le_value_greatest {known : List (String × R)} {entry : String × R} (h : entry ∈ known) :
    value entry.2 ≤ value (greatest known) := by
  -- the greatest number so far never decreases, and is at least each number that was met
  have hfold : ∀ (rest : List (String × R)) (x : R),
      value x ≤ value (rest.foldl (fun m other => Scalar.max m other.2) x) ∧
        ∀ other ∈ rest, value other.2 ≤ value (rest.foldl (fun m other => Scalar.max m other.2) x) := by
    intro rest
    induction rest with
    | nil => exact fun x => ⟨le_rfl, fun _ hother => absurd hother List.not_mem_nil⟩
    | cons first rest ih =>
      intro x
      obtain ⟨hmax, hrest⟩ := ih (Scalar.max x first.2)
      rw [value_max] at hmax
      refine ⟨(le_max_left _ _).trans hmax, fun other hother => ?_⟩
      rcases List.mem_cons.mp hother with rfl | hother
      · exact (le_max_right _ _).trans hmax
      · exact hrest other hother
  cases known with
  | nil => cases h
  | cons first rest =>
    rcases List.mem_cons.mp h with rfl | h
    · exact (hfold rest entry.2).1
    · exact (hfold rest first.2).2 entry h

omit [Scalar R] [Measured R] in
theorem mem_of_lookup {table : List (String × R)} {key : String} {x : R} (h : table.lookup key = some x) :
    (key, x) ∈ table := by
  obtain ⟨before, after, rfl, -⟩ := List.lookup_eq_some_iff.mp h
  exact List.mem_append_right _ List.mem_cons_self

/-- The terms that count are terms of the query, with positive rarities that are not greater than the greatest one. -/
theorem of_mem_weigh {known : List (String × R)} {terms : List String} {entry : String × R}
    (h : entry ∈ weigh known terms) :
    entry.1 ∈ terms ∧ 0 < value entry.2 ∧ value entry.2 ≤ value (greatest known) := by
  obtain ⟨term, hterm, hentry⟩ := List.mem_filterMap.mp h
  obtain ⟨x, hx, rfl⟩ := Option.map_eq_some_iff.mp hentry
  obtain ⟨hlookup, hless⟩ := Option.filter_eq_some_iff.mp hx
  refine ⟨hterm, ?_, value_le_value_greatest (mem_of_lookup hlookup)⟩
  rw [less_iff, value_zero] at hless
  exact hless

theorem value_greatestScore (known : List (String × R)) (terms : List String) :
    value (greatestScore known terms) = terms.length * value (greatest known) := by
  rw [greatestScore, value_mul, value_whole]
  rfl

/-- **If some term counts, the greatest rarity and the greatest possible score are positive.** -/
theorem value_greatest_pos {known : List (String × R)} {terms : List String} (h : weigh known terms ≠ []) :
    0 < value (greatest known) ∧ 0 < value (greatestScore known terms) := by
  obtain ⟨entry, hentry⟩ := List.exists_mem_of_ne_nil _ h
  obtain ⟨hterm, hpos, hle⟩ := of_mem_weigh hentry
  have hlength : 0 < (terms.length : ℝ) := by exact_mod_cast List.length_pos_of_mem hterm
  have hgreatest : 0 < value (greatest known) := hpos.trans_le hle
  refine ⟨hgreatest, ?_⟩
  rw [value_greatestScore]
  exact mul_pos hlength hgreatest

/-- A score that is at most the greatest possible one is not cut down. -/
theorem normalized_eq_div {most score : R} (hpos : 0 < value most) (hle : value score ≤ value most) :
    normalized most score = Scalar.div score most := by
  have hless : Scalar.less Scalar.zero most = true := by
    rw [less_iff, value_zero]
    exact hpos
  have hnot : ¬ Scalar.less Scalar.one (Scalar.div score most) = true := by
    rw [less_iff, value_one, value_div, not_lt]
    exact (div_le_one hpos).mpr hle
  rw [normalized, if_pos hless, Scalar.min, if_neg hnot]

/-- The scores are ranked, greatest first. -/
theorem pairwise_ranked (entries : List (NodeId × R)) :
    (ranked entries).Pairwise fun better worse => value worse.2 ≤ value better.2 := by
  have hle : ∀ a b : NodeId × R, (!Scalar.less a.2 b.2) = true ↔ value b.2 ≤ value a.2 := by
    intro a b
    rw [Bool.not_eq_true', Bool.eq_false_iff, Ne, less_iff, not_lt]
  refine (List.pairwise_mergeSort ?_ ?_ _).imp fun {a b} hab => (hle a b).mp hab
  · intro a b c hab hbc
    exact (hle a c).mpr (((hle b c).mp hbc).trans ((hle a b).mp hab))
  · intro a b
    rw [Bool.or_eq_true, hle, hle]
    exact le_total _ _

end Search

end Values

end CodeAtlas
