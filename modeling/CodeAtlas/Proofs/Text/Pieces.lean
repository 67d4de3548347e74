import Mathlib
import CodeAtlas.Store.Row

/-!
# Pieces of texts

Cutting undoes joining as long as no piece holds the separator. Joining always undoes cutting, so a column of names
that is not empty is written again as it was read.

## Main results

* `cutAt_joinWith`, `joinWith_cutAt`: cutting and joining undo each other
* `afterLast_append_glue`, `afterLast_append_of_not_mem`: the end of a text that is put together
* `length_intercalate_le_of_sublist`, `length_joinWith_dropLast_lt`: texts of fewer pieces are shorter
* `takeWhile_run_append`, `dropWhile_run_append`: a run of characters of a class, and what follows it
* `joinNames_splitNames`: a column that is not empty is written as it was read
-/

namespace CodeAtlas

/-! ## Cutting and joining -/

namespace Text

variable {sep : Char}

@[simp] theorem toList_joinWith (glue : String) (pieces : List String) :
    (joinWith glue pieces).toList = List.intercalate glue.toList (pieces.map String.toList) :=
  String.toList_ofList

/-- **Cutting undoes joining**, if there are pieces and none of them holds the separator. -/
theorem cutAt_joinWith {glue : String} (hg : glue.toList = [sep]) {pieces : List String}
    (hne : pieces ≠ []) (h : ∀ p ∈ pieces, sep ∉ p.toList) :
    cutAt sep (joinWith glue pieces) = pieces := by
  have hmap : pieces.map String.toList ≠ [] := by simpa using hne
  rw [cutAt, toList_joinWith, hg, List.splitOn_intercalate sep (by simpa using h) hmap, List.map_map]
  simp

theorem joinWith_cutAt {glue : String} (hg : glue.toList = [sep]) (s : String) :
    joinWith glue (cutAt sep s) = s := by
  apply String.ext
  rw [toList_joinWith, hg, cutAt, List.map_map]
  have : String.toList ∘ String.ofList = id := funext fun cs => by simp
  rw [this, List.map_id, List.intercalate_splitOn]

theorem cutAt_ne_nil (sep : Char) (s : String) : cutAt sep s ≠ [] := by
  simp [cutAt, List.splitOn_ne_nil]

theorem intercalate_append (glue : List Char) {ps qs : List (List Char)} (hps : ps ≠ []) (hqs : qs ≠ []) :
    List.intercalate glue (ps ++ qs) = List.intercalate glue ps ++ glue ++ List.intercalate glue qs := by
  induction ps with
  | nil => exact absurd rfl hps
  | cons p ps ih =>
    by_cases hnil : ps = []
    · subst hnil
      rw [List.singleton_append, List.intercalate_cons_of_ne_nil hqs, List.intercalate_singleton]
    · rw [List.cons_append, List.intercalate_cons_of_ne_nil (by simp [hnil]), ih hnil,
        List.intercalate_cons_of_ne_nil hnil]
      simp

theorem intercalate_append_singleton (glue : List Char) {ps : List (List Char)} (hne : ps ≠ [])
    (q : List Char) : List.intercalate glue (ps ++ [q]) = List.intercalate glue ps ++ glue ++ q := by
  rw [intercalate_append glue hne (List.cons_ne_nil q []), List.intercalate_singleton]

theorem mem_or_exists_of_mem_intercalate {glue : List Char} {c : Char} {ps : List (List Char)}
    (h : c ∈ List.intercalate glue ps) : c ∈ glue ∨ ∃ p ∈ ps, c ∈ p := by
  induction ps with
  | nil => simp [List.intercalate] at h
  | cons p ps ih =>
    by_cases hps : ps = []
    · subst hps
      rw [List.intercalate_singleton] at h
      exact Or.inr ⟨p, by simp, h⟩
    · rw [List.intercalate_cons_of_ne_nil hps, List.mem_append, List.mem_append] at h
      rcases h with (h | h) | h
      · exact Or.inr ⟨p, by simp, h⟩
      · exact Or.inl h
      · rcases ih h with hg | ⟨q, hq, hc⟩
        · exact Or.inl hg
        · exact Or.inr ⟨q, by simp [hq], hc⟩

theorem mem_intercalate_of_mem (glue : List Char) {c : Char} {p : List Char} {ps : List (List Char)} (hp : p ∈ ps)
    (hc : c ∈ p) : c ∈ List.intercalate glue ps := by
  induction ps with
  | nil => cases hp
  | cons q ps ih =>
    by_cases hps : ps = []
    · subst hps
      rw [List.mem_singleton.mp hp] at hc
      rwa [List.intercalate_singleton]
    · rw [List.intercalate_cons_of_ne_nil hps, List.mem_append, List.mem_append]
      rcases List.mem_cons.mp hp with rfl | hp
      · exact Or.inl (Or.inl hc)
      · exact Or.inr (ih hp)

theorem joinWith_append_singleton (glue : String) {pieces : List String} (hne : pieces ≠ [])
    (q : String) : joinWith glue (pieces ++ [q]) = joinWith glue pieces ++ glue ++ q := by
  apply String.ext
  have hmap : pieces.map String.toList ≠ [] := by simpa using hne
  simp only [toList_joinWith, List.map_append, List.map_cons, List.map_nil, String.toList_append]
  exact intercalate_append_singleton _ hmap _

@[simp] theorem joinWith_singleton (glue q : String) : joinWith glue [q] = q := by
  apply String.ext
  simp [List.intercalate]

/-! ## Lengths -/

theorem length_intercalate_cons (glue p : List Char) (ps : List (List Char)) :
    (List.intercalate glue (p :: ps)).length =
      p.length + if ps = [] then 0 else glue.length + (List.intercalate glue ps).length := by
  cases ps with
  | nil => simp [List.intercalate]
  | cons q qs =>
    rw [List.intercalate_cons_of_ne_nil (List.cons_ne_nil q qs)]
    simp only [List.length_append, reduceCtorEq, if_false, Nat.add_assoc]

/-- Fewer pieces make a shorter text. -/
theorem length_intercalate_le_of_sublist (glue : List Char) {ps qs : List (List Char)} (h : ps.Sublist qs) :
    (List.intercalate glue ps).length ≤ (List.intercalate glue qs).length := by
  induction h with
  | slnil => exact Nat.le_refl _
  | @cons ps qs q hsub ih =>
    rw [length_intercalate_cons]
    split
    · next hnil =>
      rw [hnil] at ih
      exact ih.trans (Nat.zero_le _)
    · omega
  | @cons_cons ps qs p hsub ih =>
    rw [length_intercalate_cons, length_intercalate_cons]
    by_cases hps : ps = []
    · rw [if_pos hps]
      omega
    · have hqs : qs ≠ [] := by
        rintro rfl
        exact hps (List.sublist_nil.mp hsub)
      rw [if_neg hps, if_neg hqs]
      omega

theorem length_joinWith (glue : String) (pieces : List String) :
    (joinWith glue pieces).length = (List.intercalate glue.toList (pieces.map String.toList)).length := by
  rw [← String.length_toList, toList_joinWith]

/-- A text without its last piece is shorter, unless this piece is empty. -/
theorem length_joinWith_dropLast_lt (glue : String) {pieces : List String} (hne : pieces ≠ [])
    (hlast : pieces.getLast hne ≠ "") : (joinWith glue pieces.dropLast).length < (joinWith glue pieces).length := by
  have hpos : 0 < (pieces.getLast hne).length := by
    rw [Nat.pos_iff_ne_zero, Ne, String.length_eq_zero_iff]
    exact hlast
  conv => rhs; rw [← List.dropLast_append_getLast hne]
  by_cases hfront : pieces.dropLast = []
  · rw [hfront, List.nil_append, joinWith_singleton]
    exact hpos
  · rw [joinWith_append_singleton glue hfront, String.length_append, String.length_append]
    omega

/-! ## The end of a text -/

theorem not_mem_of_mem_splitOn {s p : List Char} (h : p ∈ List.splitOn sep s) : sep ∉ p := by
  induction s generalizing p with
  | nil =>
    rw [List.splitOn_nil, List.mem_singleton] at h
    simp [h]
  | cons c cs ih =>
    rw [List.splitOn_cons_eq_if_modifyHead] at h
    split at h
    · rcases List.mem_cons.mp h with rfl | h
      · simp
      · exact ih h
    · next hc =>
      obtain ⟨piece, pieces, heq⟩ := List.exists_cons_of_ne_nil (List.splitOn_ne_nil sep cs)
      rw [heq] at h ih
      rcases List.mem_cons.mp h with rfl | h
      · rw [List.mem_cons, not_or]
        exact ⟨fun hsep => hc (beq_iff_eq.mpr hsep.symm), ih List.mem_cons_self⟩
      · exact ih (List.mem_cons_of_mem _ h)

theorem toList_afterLast (sep : Char) (s : String) :
    (afterLast sep s).toList = (List.splitOn sep s.toList).getLast (List.splitOn_ne_nil sep s.toList) := by
  rw [afterLast, cutAt, List.getLastD_eq_getLast?, List.getLast?_map,
    List.getLast?_eq_some_getLast (List.splitOn_ne_nil _ _)]
  simp

@[simp] theorem not_mem_afterLast (sep : Char) (s : String) : sep ∉ (afterLast sep s).toList := by
  rw [toList_afterLast]
  exact not_mem_of_mem_splitOn (List.getLast_mem _)

/-- What follows the last separator is all of a text, or a separator stands in front of it. -/
theorem afterLast_cases (sep : Char) (s : String) :
    afterLast sep s = s ∨ ∃ front, s.toList = front ++ sep :: (afterLast sep s).toList := by
  have hne := List.splitOn_ne_nil sep s.toList
  have hcut := List.dropLast_append_getLast hne
  have hs := @List.intercalate_splitOn _ s.toList _ _ sep
  by_cases hinit : (List.splitOn sep s.toList).dropLast = []
  · refine Or.inl (String.ext ?_)
    rw [toList_afterLast]
    rwa [← hcut, hinit, List.nil_append, List.intercalate_singleton] at hs
  · refine Or.inr ⟨List.intercalate [sep] (List.splitOn sep s.toList).dropLast, ?_⟩
    rw [← hcut, intercalate_append_singleton _ hinit] at hs
    rw [toList_afterLast]
    simpa using hs.symm

theorem afterLast_of_not_mem {s : String} (h : sep ∉ s.toList) : afterLast sep s = s := by
  rcases afterLast_cases sep s with heq | ⟨front, hs⟩
  · exact heq
  · exact absurd (by rw [hs]; simp) h

theorem afterLast_eq_self_iff {s : String} : afterLast sep s = s ↔ sep ∉ s.toList :=
  ⟨fun h => h ▸ not_mem_afterLast sep s, afterLast_of_not_mem⟩

/-- The end of a text after a separator is known, if it holds no other one. -/
theorem eq_of_append_cons_eq {a b u v : List Char} (hu : sep ∉ u) (hv : sep ∉ v) (h : a ++ sep :: u = b ++ sep :: v) :
    a = b ∧ u = v := by
  -- what one front has more than the other would put a separator into an end
  have hmore : ∀ {m u v : List Char}, sep ∉ u → sep :: u = m ++ sep :: v → m = [] ∧ u = v := by
    intro m u v hu heq
    cases m with
    | nil => exact ⟨rfl, (List.cons.inj heq).2⟩
    | cons c m =>
      rw [(List.cons.inj heq).2] at hu
      simp at hu
  rcases List.append_eq_append_iff.mp h with ⟨m, rfl, heq⟩ | ⟨m, rfl, heq⟩
  · obtain ⟨rfl, rfl⟩ := hmore hu heq
    simp
  · obtain ⟨rfl, rfl⟩ := hmore hv heq
    simp

theorem afterLast_eq_of_append_cons {s u : String} (front : List Char) (hs : s.toList = front ++ sep :: u.toList)
    (hu : sep ∉ u.toList) : afterLast sep s = u := by
  rcases afterLast_cases sep s with heq | ⟨front', hs'⟩
  · exact absurd (by rw [hs]; simp) (afterLast_eq_self_iff.mp heq)
  · exact String.ext (eq_of_append_cons_eq (not_mem_afterLast sep s) hu (hs'.symm.trans hs)).2

/-- What stands in front of a separator does not matter. -/
theorem afterLast_append_glue {glue : String} (hg : glue.toList = [sep]) (a b : String) :
    afterLast sep (a ++ glue ++ b) = afterLast sep b := by
  rcases afterLast_cases sep b with heq | ⟨front, hb⟩
  · refine (afterLast_eq_of_append_cons a.toList ?_ (afterLast_eq_self_iff.mp heq)).trans heq.symm
    simp [hg]
  · refine afterLast_eq_of_append_cons (a.toList ++ sep :: front) ?_ (not_mem_afterLast sep b)
    rw [String.toList_append, String.toList_append, hg, hb]
    simp

theorem afterLast_append_of_not_mem {u : String} (hu : sep ∉ u.toList) (s : String) :
    afterLast sep (s ++ u) = afterLast sep s ++ u := by
  rcases afterLast_cases sep s with heq | ⟨front, hs⟩
  · rw [heq]
    refine afterLast_of_not_mem ?_
    rw [String.toList_append, List.mem_append, not_or]
    exact ⟨afterLast_eq_self_iff.mp heq, hu⟩
  · refine afterLast_eq_of_append_cons front ?_ ?_
    · rw [String.toList_append, hs, String.toList_append, List.append_assoc, List.cons_append]
    · rw [String.toList_append, List.mem_append, not_or]
      exact ⟨not_mem_afterLast sep s, hu⟩

/-! ## Runs of characters -/

section Runs

variable {p : Char → Bool} {run rest : List Char} (hrun : ∀ c ∈ run, p c = true) (hrest : ∀ c ∈ rest.head?, p c = false)

include hrun hrest

/-- A run of characters of a class ends where the next character is not of the class. -/
theorem takeWhile_run_append : (run ++ rest).takeWhile p = run := by
  rw [List.takeWhile_append_of_pos hrun]
  cases rest with
  | nil => exact List.append_nil run
  | cons c cs => rw [List.takeWhile_cons_of_neg (by simp [hrest c rfl]), List.append_nil]

theorem dropWhile_run_append : (run ++ rest).dropWhile p = rest := by
  rw [List.dropWhile_append_of_pos hrun]
  cases rest with
  | nil => rfl
  | cons c cs => rw [List.dropWhile_cons_of_neg (by simp [hrest c rfl])]

end Runs

end Text

/-! ## Columns of names -/

namespace Store

/-- A column that is not empty is written as it was read. -/
theorem joinNames_splitNames {column : Option String} (h : column ≠ some "") :
    joinNames (splitNames column) = column := by
  cases column with
  | none => rfl
  | some s =>
    have hs : s.isEmpty = false := by
      rw [Bool.eq_false_iff]
      intro he
      exact h (by rw [String.isEmpty_iff.mp he])
    have hne : (Text.cutAt ',' s).isEmpty = false := by
      simpa [List.isEmpty_iff] using Text.cutAt_ne_nil ',' s
    simp only [splitNames, hs, Bool.false_eq_true, if_false, joinNames, hne]
    rw [Text.joinWith_cutAt rfl]

/-- Names without commas are read as they were written, apart from a single empty name. -/
theorem splitNames_joinNames {names : List String} (hblank : names ≠ [""]) (hcomma : ∀ w ∈ names, ',' ∉ w.toList) :
    splitNames (joinNames names) = names := by
  by_cases hne : names = []
  · subst hne
    rfl
  · have hcut : Text.cutAt ',' (Text.joinWith "," names) = names := Text.cutAt_joinWith rfl hne hcomma
    have hs : (Text.joinWith "," names).isEmpty = false := by
      rw [Bool.eq_false_iff]
      intro he
      rw [String.isEmpty_iff.mp he] at hcut
      exact hblank hcut.symm
    simp [joinNames, splitNames, hne, hs, hcut]

/-- Only the list of a single empty name has an empty column. -/
theorem joinNames_eq_empty_iff {names : List String} : joinNames names = some "" ↔ names = [""] := by
  constructor
  · intro h
    cases names with
    | nil => cases h
    | cons n rest =>
      have htext : (Text.joinWith "," (n :: rest)).toList = [] := by
        rw [Option.some.inj h]
        rfl
      rw [Text.toList_joinWith, List.map_cons] at htext
      cases rest with
      | nil =>
        have hn : n = "" := String.ext (by simpa [List.intercalate] using htext)
        rw [hn]
      | cons m rest => simp [List.intercalate] at htext
  · rintro rfl
    rfl

theorem joinNames_ne_empty {names : List String} (h : "" ∉ names) : joinNames names ≠ some "" := by
  intro hempty
  rw [joinNames_eq_empty_iff.mp hempty] at h
  exact h List.mem_cons_self

end Store

end CodeAtlas
