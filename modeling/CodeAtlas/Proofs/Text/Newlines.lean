import Mathlib
import CodeAtlas.Proofs.Text.Pieces
import CodeAtlas.Text.Lines

/-!
# Newlines and carriage returns

Rows are counted by newlines alone, while a reader of lines first turns every carriage return into a newline. The two
counts agree on the characters before a place if each return among them is followed by a newline. Then the lines from
the row where a part starts to the row where it ends hold the part. A return that stands alone shifts all lines after
it, and the lines of some part miss its end.

The argument follows the part of the normalised text that is settled by some characters (`settled`): a return at their
end is not settled yet, since it may be half of a line end.

## Main results

* `normalizeNewlinesChars_append`: normalising two texts apart, unless a line end is cut in two
* `count_settled`, `settled_append`: what is settled has as many newlines as the characters, and grows part by part
* `infix_rangeChars`: the lines of a part hold it, if no return before its end stands alone
* `not_infix_rangeChars`: the lines of a text up to the character after a return that stands alone do not hold it
-/

namespace CodeAtlas.Text

/-! ## Ranges of lines -/

variable {sep : Char}

theorem length_splitOn (sep : Char) (s : List Char) : (List.splitOn sep s).length = s.count sep + 1 := by
  induction s with
  | nil => rfl
  | cons c cs ih =>
    rw [List.splitOn_cons_eq_if_modifyHead, List.count_cons]
    split
    · rw [List.length_cons, ih]
    · rw [List.length_modifyHead, ih]

/-- A text is one piece, or it ends with a separator and its last piece. -/
theorem eq_append_last_piece (sep : Char) (p : List Char) :
    sep ∉ p ∨ ∃ front u, p = front ++ sep :: u ∧ sep ∉ u := by
  by_cases h : sep ∈ p.reverse
  · obtain ⟨u, front, hp, hu⟩ := List.eq_append_cons_of_mem h
    refine Or.inr ⟨front.reverse, u.reverse, ?_, by simpa using hu⟩
    rw [← List.reverse_reverse p, hp]
    simp
  · exact Or.inl (by simpa using h)

theorem exists_drop_splitOn (sep : Char) (p x : List Char) :
    ∃ u, sep ∉ u ∧ (List.splitOn sep (p ++ x)).drop (p.count sep) = List.splitOn sep (u ++ x) := by
  rcases eq_append_last_piece sep p with hp | ⟨front, u, rfl, hu⟩
  · exact ⟨p, hp, by rw [List.count_eq_zero.mpr hp, List.drop_zero]⟩
  · refine ⟨u, hu, ?_⟩
    have hcount : (front ++ sep :: u).count sep = (List.splitOn sep front).length := by
      rw [length_splitOn, List.count_append, List.count_cons_self, List.count_eq_zero.mpr hu, zero_add]
    rw [hcount, List.append_assoc, List.cons_append, List.splitOn_append_cons_self, List.drop_left]

theorem exists_take_splitOn (sep : Char) (y q : List Char) :
    ∃ v, sep ∉ v ∧ v <+: q ∧ (List.splitOn sep (y ++ q)).take (y.count sep + 1) = List.splitOn sep (y ++ v) := by
  by_cases hq : sep ∈ q
  · obtain ⟨v, rest, rfl, hv⟩ := List.eq_append_cons_of_mem hq
    refine ⟨v, hv, List.prefix_append _ _, ?_⟩
    have hcount : y.count sep + 1 = (List.splitOn sep (y ++ v)).length := by
      rw [length_splitOn, List.count_append, List.count_eq_zero.mpr hv, add_zero]
    rw [hcount, ← List.append_assoc, List.splitOn_append_cons_self, List.take_left]
  · refine ⟨q, hq, List.prefix_rfl, List.take_of_length_le ?_⟩
    rw [length_splitOn, List.count_append, List.count_eq_zero.mpr hq, add_zero]

/-- The lines of a text from one row to another, joined again and with a newline at the end. -/
def rangeChars (first last : Nat) (cs : List Char) : List Char :=
  List.intercalate ['\n'] (((List.splitOn '\n' cs).take (last + 1)).drop first) ++ ['\n']

/-- **The lines of a part**: the part, with what stands before it in its first line and after it in its last line. -/
theorem exists_rangeChars (p m q : List Char) :
    ∃ u v, '\n' ∉ u ∧ '\n' ∉ v ∧ v <+: q ∧
      rangeChars (p.count '\n') ((p ++ m).count '\n') (p ++ (m ++ q)) = u ++ (m ++ v) ++ ['\n'] := by
  obtain ⟨u, hu, hdrop⟩ := exists_drop_splitOn '\n' p (m ++ q)
  obtain ⟨v, hv, hq, htake⟩ := exists_take_splitOn '\n' (u ++ m) q
  refine ⟨u, v, hu, hv, hq, ?_⟩
  have hrows : (p ++ m).count '\n' + 1 - p.count '\n' = (u ++ m).count '\n' + 1 := by
    rw [List.count_append, List.count_append, List.count_eq_zero.mpr hu]
    omega
  rw [rangeChars, List.drop_take, hdrop, hrows, ← List.append_assoc, htake, List.intercalate_splitOn]
  simp only [List.append_assoc]

theorem count_intercalate {ps : List (List Char)} (hne : ps ≠ []) (h : ∀ p ∈ ps, sep ∉ p) :
    (List.intercalate [sep] ps).count sep + 1 = ps.length := by
  rw [← length_splitOn, List.splitOn_intercalate sep h hne]

/-- There are as many newlines before the last one as there are lines after the first one. -/
theorem count_rangeChars_le (last : Nat) (cs : List Char) : (rangeChars 0 last cs).dropLast.count '\n' ≤ last := by
  rw [rangeChars, List.dropLast_concat, List.drop_zero]
  have hne : (List.splitOn '\n' cs).take (last + 1) ≠ [] := by
    rw [Ne, List.take_eq_nil_iff, not_or]
    exact ⟨Nat.succ_ne_zero last, List.splitOn_ne_nil _ _⟩
  have hcount := count_intercalate hne fun p hp => not_mem_of_mem_splitOn (List.mem_of_mem_take hp)
  have hlength := List.length_take_le (last + 1) (List.splitOn '\n' cs)
  omega

/-! ## Normalising -/

theorem normalizeNewlinesChars_cons {c : Char} {cs : List Char} (h : c = '\r' → cs.head? ≠ some '\n') :
    normalizeNewlinesChars (c :: cs) = (if c = '\r' then '\n' else c) :: normalizeNewlinesChars cs := by
  rw [normalizeNewlinesChars.eq_3]
  rintro rest rfl rfl
  exact h rfl rfl

/-- Two texts can be normalised apart, unless a line end is cut in two between them. -/
theorem normalizeNewlinesChars_append {a b : List Char} (h : a.getLast? = some '\r' → b.head? ≠ some '\n') :
    normalizeNewlinesChars (a ++ b) = normalizeNewlinesChars a ++ normalizeNewlinesChars b := by
  fun_induction normalizeNewlinesChars a with
  | case1 => rfl
  | case2 cs ih =>
    rw [List.cons_append, List.cons_append, normalizeNewlinesChars, List.cons_append, ih]
    intro hlast
    exact h (by simp [List.getLast?_cons, hlast])
  | case3 c cs hpair ih =>
    -- a return at the end of the first text meets the start of the second one
    have hjoint : c = '\r' → (cs ++ b).head? ≠ some '\n' := by
      rintro rfl
      cases cs with
      | nil => exact h rfl
      | cons d rest =>
        intro hd
        exact hpair rest rfl (by rw [Option.some.inj hd])
    rw [List.cons_append, normalizeNewlinesChars_cons hjoint, List.cons_append, ih]
    intro hlast
    exact h (by simp [List.getLast?_cons, hlast])

theorem count_le_count_normalize (cs : List Char) : cs.count '\n' ≤ (normalizeNewlinesChars cs).count '\n' := by
  fun_induction normalizeNewlinesChars cs with
  | case1 => rfl
  | case2 cs ih => simpa using ih
  | case3 c cs _ ih =>
    by_cases hc : c = '\n'
    · subst hc
      simpa using ih
    · rw [List.count_cons_of_ne hc]
      exact ih.trans List.count_le_count_cons

/-! ## What is settled -/

/-- Every carriage return is followed by a newline or is the last character. -/
def PairedReturns (cs : List Char) : Prop :=
  ∀ front back, cs = front ++ '\r' :: back → back = [] ∨ ∃ rest, back = '\n' :: rest

theorem PairedReturns.of_append_left {a b : List Char} (h : PairedReturns (a ++ b)) : PairedReturns a := by
  rintro front back rfl
  cases back with
  | nil => exact Or.inl rfl
  | cons c rest =>
    rcases h front (c :: rest ++ b) (by simp) with hnil | ⟨rest', hrest⟩
    · cases hnil
    · exact Or.inr ⟨rest, by rw [(List.cons.inj hrest).1]⟩

theorem PairedReturns.of_append_right {a b : List Char} (h : PairedReturns (a ++ b)) : PairedReturns b := by
  rintro front back rfl
  exact h (a ++ front) back (by simp)

theorem exists_lone_of_not_paired {cs : List Char} (h : ¬PairedReturns cs) :
    ∃ front c back, cs = front ++ ['\r', c] ++ back ∧ c ≠ '\n' := by
  unfold PairedReturns at h
  push Not at h
  obtain ⟨front, back, rfl, hne, hpair⟩ := h
  obtain ⟨c, rest, rfl⟩ := List.exists_cons_of_ne_nil hne
  exact ⟨front, c, rest, by simp, fun hc => hpair rest (by rw [hc])⟩

/-- Characters without a carriage return at their end. -/
def beforeReturn (cs : List Char) : List Char :=
  if cs.getLast? = some '\r' then cs.dropLast else cs

/-- The part of a normalised text that no later character can change. -/
def settled (cs : List Char) : List Char :=
  normalizeNewlinesChars (beforeReturn cs)

theorem return_cases (cs : List Char) : (∃ x, cs = x ++ ['\r']) ∨ cs.getLast? ≠ some '\r' := by
  by_cases h : cs.getLast? = some '\r'
  · exact Or.inl (List.getLast?_eq_some_iff.mp h)
  · exact Or.inr h

@[simp] theorem settled_concat_return (x : List Char) : settled (x ++ ['\r']) = normalizeNewlinesChars x := by
  rw [settled, beforeReturn, List.getLast?_concat, if_pos rfl, List.dropLast_concat]

theorem settled_of_last {cs : List Char} (h : cs.getLast? ≠ some '\r') : settled cs = normalizeNewlinesChars cs := by
  rw [settled, beforeReturn, if_neg h]

theorem normalize_concat_return (x : List Char) :
    normalizeNewlinesChars (x ++ ['\r']) = normalizeNewlinesChars x ++ ['\n'] :=
  normalizeNewlinesChars_append fun _ => by simp

theorem head?_normalize_return (b : List Char) : (normalizeNewlinesChars ('\r' :: b)).head? = some '\n' := by
  by_cases h : b.head? = some '\n'
  · obtain ⟨rest, rfl⟩ := List.head?_eq_some_iff.mp h
    rfl
  · rw [normalizeNewlinesChars_cons fun _ => h]
    rfl

/-- What is settled starts the normalised text. A return that is not settled is a newline there. -/
theorem exists_settled_append (a b : List Char) :
    ∃ rest, normalizeNewlinesChars (a ++ b) = settled a ++ rest ∧
      (a.getLast? = some '\r' → rest.head? = some '\n') := by
  rcases return_cases a with ⟨x, rfl⟩ | hlast
  · refine ⟨normalizeNewlinesChars ('\r' :: b), ?_, fun _ => ?_⟩
    · rw [settled_concat_return, List.append_assoc, List.singleton_append, normalizeNewlinesChars_append]
      intro _
      simp
    · exact head?_normalize_return b
  · refine ⟨normalizeNewlinesChars b, ?_, fun h => absurd h hlast⟩
    rw [settled_of_last hlast, normalizeNewlinesChars_append fun h => absurd h hlast]

/-- A text after a return that it pairs, or after no return. -/
theorem normalize_append_eq_settled {a b : List Char} (h : a.getLast? = some '\r' → b.head? = some '\n') :
    normalizeNewlinesChars (a ++ b) = settled a ++ normalizeNewlinesChars b := by
  rcases return_cases a with ⟨x, rfl⟩ | hlast
  · obtain ⟨rest, rfl⟩ := List.head?_eq_some_iff.mp (h List.getLast?_concat)
    have hapart := normalizeNewlinesChars_append (a := x) (b := '\r' :: '\n' :: rest) fun _ => by simp
    have hnewline : normalizeNewlinesChars ('\n' :: rest) = '\n' :: normalizeNewlinesChars rest :=
      normalizeNewlinesChars_cons fun hc => absurd hc (by decide)
    rw [settled_concat_return, List.append_assoc, List.singleton_append, hapart, hnewline]
    rfl
  · rw [settled_of_last hlast, normalizeNewlinesChars_append fun hc => absurd hc hlast]

/-- **What is settled grows part by part**, wherever a text is cut, if its returns are paired. -/
theorem settled_append {a b : List Char} (h : PairedReturns (a ++ b)) : settled (a ++ b) = settled a ++ settled b := by
  have hpaired : a.getLast? = some '\r' → b = [] ∨ ∃ rest, b = '\n' :: rest := by
    intro hlast
    obtain ⟨x, rfl⟩ := List.getLast?_eq_some_iff.mp hlast
    exact h x b (by simp)
  rcases return_cases b with ⟨y, rfl⟩ | hlast
  · -- the second part keeps its last return back, and starts with the other half of a line end if there is one
    rw [← List.append_assoc, settled_concat_return, settled_concat_return, normalize_append_eq_settled]
    intro hreturn
    obtain hnil | ⟨rest, hrest⟩ := hpaired hreturn
    · simp at hnil
    · cases y with
      | nil => simp at hrest
      | cons c y => rw [(List.cons.inj hrest).1, List.head?_cons]
  · by_cases hb : b = []
    · subst hb
      rw [List.append_nil]
      exact (List.append_nil _).symm
    · have hjoint : (a ++ b).getLast? ≠ some '\r' := by
        rwa [List.getLast?_append_of_ne_nil _ hb]
      rw [settled_of_last hlast, settled_of_last hjoint, normalize_append_eq_settled]
      intro hreturn
      obtain hnil | ⟨rest, rfl⟩ := hpaired hreturn
      · exact absurd hnil hb
      · rfl

theorem count_normalize {cs : List Char} (h : PairedReturns cs) (hlast : cs.getLast? ≠ some '\r') :
    (normalizeNewlinesChars cs).count '\n' = cs.count '\n' := by
  fun_induction normalizeNewlinesChars cs with
  | case1 => rfl
  | case2 cs ih =>
    have hrest : cs.getLast? ≠ some '\r' := fun hcs => hlast (by simp [List.getLast?_cons, hcs])
    simpa using ih (h.of_append_right (a := ['\r', '\n'])) hrest
  | case3 c cs hpair ih =>
    -- no return is left here: it would be paired, and that is the case before, or be the last character
    have hc : c ≠ '\r' := by
      rintro rfl
      obtain rfl | ⟨rest, rfl⟩ := h [] cs rfl
      · exact hlast rfl
      · exact hpair rest rfl rfl
    have hrest : cs.getLast? ≠ some '\r' := fun hcs => hlast (by simp [List.getLast?_cons, hcs])
    rw [if_neg hc, List.count_cons, List.count_cons, ih (h.of_append_right (a := [c])) hrest]

/-- **What is settled has as many newlines as the characters**, if their returns are paired. -/
theorem count_settled {cs : List Char} (h : PairedReturns cs) : (settled cs).count '\n' = cs.count '\n' := by
  rcases return_cases cs with ⟨x, rfl⟩ | hlast
  · -- two returns at the end would not be paired
    have hx : x.getLast? ≠ some '\r' := by
      intro hreturn
      obtain ⟨y, rfl⟩ := List.getLast?_eq_some_iff.mp hreturn
      obtain hnil | ⟨rest, hrest⟩ := h y ['\r'] (by simp)
      · cases hnil
      · simp at hrest
    rw [settled_concat_return, count_normalize h.of_append_left hx]
    simp
  · rw [settled_of_last hlast, count_normalize h hlast]

/-! ## The lines of a part -/

/-- **The lines of a part hold it**, if no return before its end stands alone. -/
theorem infix_rangeChars {p m : List Char} (h : PairedReturns (p ++ m)) (q : List Char) :
    normalizeNewlinesChars m <:+:
      rangeChars (p.count '\n') ((p ++ m).count '\n') (normalizeNewlinesChars (p ++ m ++ q)) := by
  obtain ⟨rest, hrest, hreturn⟩ := exists_settled_append (p ++ m) q
  obtain ⟨u, v, -, hv, hstart, hrange⟩ := exists_rangeChars (settled p) (settled m) rest
  rw [← settled_append h, count_settled h, count_settled h.of_append_left, ← List.append_assoc, ← settled_append h,
    ← hrest] at hrange
  rw [hrange]
  rcases return_cases m with ⟨x, rfl⟩ | hlast
  · -- a return at the end of the part is the newline after its last line
    obtain rfl : v = [] := by
      have hhead : rest.head? = some '\n' := hreturn (by rw [← List.append_assoc, List.getLast?_concat])
      cases v with
      | nil => rfl
      | cons c v =>
        obtain ⟨t, rfl⟩ := hstart
        obtain rfl : c = '\n' := Option.some.inj hhead
        exact absurd List.mem_cons_self hv
    refine ⟨u, [], ?_⟩
    simp [normalize_concat_return]
  · rw [← settled_of_last hlast]
    exact ⟨u, v ++ ['\n'], by simp⟩

/-- **The lines of a text up to the character after a return that stands alone do not hold it**, whichever text they
are taken from: there are too few. -/
theorem not_infix_rangeChars {c : Char} (hc : c ≠ '\n') (front cs : List Char) :
    ¬normalizeNewlinesChars (front ++ ['\r', c]) <:+:
      rangeChars 0 ((front ++ ['\r', c]).count '\n') cs := by
  rintro ⟨u, v, huv⟩
  have hpart : normalizeNewlinesChars (front ++ ['\r', c]) =
      normalizeNewlinesChars front ++ ['\n'] ++ normalizeNewlinesChars [c] := by
    rw [← normalize_concat_return, ← normalizeNewlinesChars_append fun _ => by simpa using hc]
    simp
  have hrows : (front ++ ['\r', c]).count '\n' = front.count '\n' := by
    simp [hc]
  have hne : normalizeNewlinesChars [c] ++ v ≠ [] := by
    rw [normalizeNewlinesChars_cons fun _ => by simp]
    simp
  -- something follows the newline that the return became, so that newline is not the last one of the lines
  have hinit : (rangeChars 0 ((front ++ ['\r', c]).count '\n') cs).dropLast =
      u ++ (normalizeNewlinesChars front ++ ['\n']) ++ (normalizeNewlinesChars [c] ++ v).dropLast := by
    rw [← huv, hpart, ← List.dropLast_append_of_ne_nil hne]
    simp only [List.append_assoc]
  have hcount := count_rangeChars_le ((front ++ ['\r', c]).count '\n') cs
  have hle := count_le_count_normalize front
  rw [hinit, hrows] at hcount
  simp only [List.count_append, List.count_singleton_self] at hcount
  omega

end CodeAtlas.Text
