import Mathlib
import CodeAtlas.Proofs.Search.Tokens

/-!
# The parts of a name

A name of letters, digits and underscores falls into parts. Underscores are left out, and a new part starts behind them
and at every capital. The program finds the parts in three rounds: it cuts the name at underscores, puts a space in front
of every capital, and takes the words of what results. Here the parts are read in one go from left to right. So nothing
of the name is lost or made up, and a part can be found as a token of the text of every node with this name.

## Main definitions

* `Splits`: splitting characters into parts
* `dropUnderscores`: a text without its underscores
* `BreaksAfter`: parts fall apart behind the first characters of a name

## Main results

* `splits_pieces`: the three rounds split the characters of a name
* `Splits.flatten_eq`: the parts make up the characters without underscores
* `Splits.breaks_iff`: where the parts fall apart
* `splitIdentifier_lossless`: the parts of a name
-/

namespace CodeAtlas

/-! ## Joining without a separator -/

namespace Text

theorem intercalate_nil_left (ps : List (List Char)) : List.intercalate [] ps = ps.flatten := by
  induction ps with
  | nil => rfl
  | cons p ps ih =>
    cases ps with
    | nil => simp [List.intercalate]
    | cons q qs => rw [List.intercalate_cons_cons, ih, List.append_nil, ← List.flatten_cons]

/-! ## Lower case of ASCII characters -/

/-- What holds of the first 128 characters holds of every ASCII character. -/
theorem ascii_of_forall {P : Char → Prop} (h : ∀ n < 128, P (Char.ofNat n)) {c : Char} (hc : c.toNat < 128) : P c := by
  simpa using h c.toNat hc

theorem lowerFrom_of_ascii {before cs : List Char} (h : ∀ c ∈ cs, c.toNat < 128) :
    lowerFrom before cs = cs.map Char.toLower := by
  induction cs generalizing before with
  | nil => rfl
  | cons c cs ih =>
    obtain ⟨hc, hcs⟩ := List.forall_mem_cons.mp h
    have hsigma : c.toNat ≠ 0x3a3 := by omega
    rw [lowerFrom, ih hcs, lowerChar, if_pos hc]
    simp [hsigma]

/-- A text without its underscores. -/
def dropUnderscores (s : String) : String :=
  String.ofList (s.toList.filter (· != '_'))

/-- Lower case makes no underscores. -/
theorem filter_map_toLower {cs : List Char} (h : ∀ c ∈ cs, c.toNat < 128) :
    (cs.map Char.toLower).filter (· != '_') = (cs.filter (· != '_')).map Char.toLower := by
  rw [List.filter_map]
  congr 1
  refine List.filter_congr fun c hc => ?_
  exact ascii_of_forall (P := fun c => (c.toLower != '_') = (c != '_')) (by decide +kernel) (h c hc)

end Text

namespace Search

open Text

/-! ## Splitting from left to right -/

/-- A part of a name: its characters are no underscores, and behind the first one there is no capital. -/
inductive IsPart : List Char → Prop
  | mk {c : Char} {tail : List Char} (hc : c ≠ '_') (htail : ∀ d ∈ tail, d ≠ '_' ∧ isCapital d = false) :
      IsPart (c :: tail)

/-- Splitting characters into parts, from left to right. Underscores are skipped, and a part is as long as can be. -/
inductive Splits : List Char → List (List Char) → Prop
  | nil : Splits [] []
  | skip {cs : List Char} {parts : List (List Char)} (h : Splits cs parts) : Splits ('_' :: cs) parts
  | part {part rest : List Char} {parts : List (List Char)} (hpart : IsPart part)
      (hend : ∀ c ∈ rest.head?, c = '_' ∨ isCapital c = true) (h : Splits rest parts) :
      Splits (part ++ rest) (part :: parts)

theorem IsPart.ne_nil {part : List Char} (h : IsPart part) : part ≠ [] := by
  cases h
  exact List.cons_ne_nil _ _

theorem IsPart.not_mem {part : List Char} (h : IsPart part) : '_' ∉ part := by
  obtain ⟨hc, htail⟩ := h
  rintro (_ | ⟨_, hmem⟩)
  · exact hc rfl
  · exact (htail _ hmem).1 rfl

theorem IsPart.filter_eq {part : List Char} (h : IsPart part) : part.filter (· != '_') = part :=
  List.filter_eq_self.mpr fun c hc => by simpa using fun heq : c = '_' => h.not_mem (heq ▸ hc)

theorem IsPart.append_singleton {part : List Char} (h : IsPart part) {d : Char} (hd : d ≠ '_')
    (hsmall : isCapital d = false) : IsPart (part ++ [d]) := by
  obtain ⟨hc, htail⟩ := h
  exact .mk hc (List.forall_mem_append.mpr ⟨htail, List.forall_mem_singleton.mpr ⟨hd, hsmall⟩⟩)

theorem IsPart.isEmpty_reverse {word : List Char} (h : IsPart word.reverse) : word.isEmpty = false := by
  rw [← List.isEmpty_reverse, Bool.eq_false_iff]
  exact fun hempty => h.ne_nil (List.isEmpty_iff.mp hempty)

/-- The words between spaced capitals are parts. The current word is a part that what follows goes on with. -/
theorem splits_wordsFrom (word cs : List Char) (hword : word = [] ∨ IsPart word.reverse)
    (hcs : ∀ c ∈ cs, isBlank c = false ∧ c ≠ '_') :
    Splits (word.reverse ++ cs) (wordsFrom word (spaceCapitals cs)) := by
  induction cs generalizing word with
  | nil =>
    rw [spaceCapitals, wordsFrom]
    rcases hword with rfl | hpart
    · exact .nil
    · rw [hpart.isEmpty_reverse]
      exact .part hpart (by simp) .nil
  | cons c cs ih =>
    obtain ⟨⟨hblank, hunder⟩, hcs⟩ := List.forall_mem_cons.mp hcs
    have hone : IsPart [c] := .mk hunder (by simp)
    rw [spaceCapitals]
    split
    · next hc =>
      -- the space ends the current word, and the capital starts a new one
      have hspace : isBlank ' ' = true := by decide
      have hrest : Splits (c :: cs) (wordsFrom [c] (spaceCapitals cs)) := ih [c] (Or.inr hone) hcs
      simp only [wordsFrom, hspace, hblank]
      rcases hword with rfl | hpart
      · exact hrest
      · rw [hpart.isEmpty_reverse]
        exact .part hpart (by simpa using Or.inr hc) hrest
    · next hc =>
      have hlonger : IsPart (c :: word).reverse := by
        rw [List.reverse_cons]
        rcases hword with rfl | hpart
        · exact hone
        · exact hpart.append_singleton hunder (Bool.eq_false_iff.mpr hc)
      have hrest := ih (c :: word) (Or.inr hlonger) hcs
      rw [List.reverse_cons, List.append_assoc] at hrest
      rw [wordsFrom, hblank]
      exact hrest

/-- An underscore ends every part. -/
theorem Splits.append_underscore {a b : List Char} {ps qs : List (List Char)} (ha : Splits a ps) (hb : Splits b qs) :
    Splits (a ++ '_' :: b) (ps ++ qs) := by
  induction ha with
  | nil => exact .skip hb
  | skip _ ih => exact .skip ih
  | @part part rest parts hpart hend _ ih =>
    rw [List.append_assoc, List.cons_append]
    refine .part hpart ?_ ih
    cases rest with
    | nil => simp
    | cons c rest => exact hend

/-- The pieces of a name between underscores, each cut before its capitals. -/
def pieces (cs : List Char) : List (List Char) :=
  (List.splitOn '_' cs).flatMap fun piece => wordsFrom [] (spaceCapitals piece)

/-- **The pieces of a name split its characters.** -/
theorem splits_pieces {cs : List Char} (h : ∀ c ∈ cs, isBlank c = false) : Splits cs (pieces cs) := by
  have hall : ∀ ps : List (List Char), ps ≠ [] → (∀ p ∈ ps, ∀ c ∈ p, isBlank c = false ∧ c ≠ '_') →
      Splits (List.intercalate ['_'] ps) (ps.flatMap fun piece => wordsFrom [] (spaceCapitals piece)) := by
    intro ps hne hps
    induction ps with
    | nil => exact absurd rfl hne
    | cons p ps ih =>
      obtain ⟨hp, hps⟩ := List.forall_mem_cons.mp hps
      have hfirst := splits_wordsFrom [] p (Or.inl rfl) hp
      by_cases hnil : ps = []
      · subst hnil
        rw [List.flatMap_singleton, List.intercalate_singleton]
        exact hfirst
      · rw [List.intercalate_cons_of_ne_nil hnil, List.append_assoc, List.flatMap_cons]
        exact hfirst.append_underscore (ih hnil hps)
  have hsplits := hall (List.splitOn '_' cs) (List.splitOn_ne_nil '_' cs) fun p hp c hc => by
    refine ⟨h c ?_, fun heq => not_mem_of_mem_splitOn hp (heq ▸ hc)⟩
    rw [← @List.intercalate_splitOn _ cs _ _ '_']
    exact mem_intercalate_of_mem _ hp hc
  rwa [List.intercalate_splitOn] at hsplits

/-! ## What splitting keeps -/

/-- **The parts make up the characters without underscores.** -/
theorem Splits.flatten_eq {cs : List Char} {parts : List (List Char)} (h : Splits cs parts) :
    parts.flatten = cs.filter (· != '_') := by
  induction h with
  | nil => rfl
  | skip _ ih => rw [ih, List.filter_cons_of_neg (by simp)]
  | part hpart _ _ ih => rw [List.flatten_cons, ih, List.filter_append, hpart.filter_eq]

theorem Splits.isPart_of_mem {cs : List Char} {parts : List (List Char)} (h : Splits cs parts) :
    ∀ part ∈ parts, IsPart part := by
  induction h with
  | nil => simp
  | skip _ ih => exact ih
  | part hpart _ _ ih => exact List.forall_mem_cons.mpr ⟨hpart, ih⟩

/-- Behind its first characters a part has no capital. -/
theorem IsPart.not_isCapital {a b : List Char} {c : Char} (h : IsPart (a ++ c :: b)) (ha : a ≠ []) :
    isCapital c = false := by
  obtain ⟨first, a, rfl⟩ := List.exists_cons_of_ne_nil ha
  obtain ⟨-, htail⟩ := h
  exact (htail c (by simp)).2

/-- Parts that make up more than the first one begin with it. -/
theorem exists_left_cons_iff {p u : List Char} {ps : List (List Char)} (hp : p ≠ []) :
    (∃ left right, p :: ps = left ++ right ∧ left.flatten = p ++ u) ↔
      ∃ left right, ps = left ++ right ∧ left.flatten = u := by
  constructor
  · rintro ⟨left, right, hps, hflatten⟩
    cases left with
    | nil => exact absurd (List.append_eq_nil_iff.mp hflatten.symm).1 hp
    | cons q left =>
      obtain ⟨rfl, hrest⟩ := List.cons.inj hps
      exact ⟨left, right, hrest, List.append_cancel_left hflatten⟩
  · rintro ⟨left, right, rfl, rfl⟩
    exact ⟨p :: left, right, rfl, rfl⟩

/-- **Where the parts fall apart.** Two characters with only underscores between them are in different parts exactly if
there is an underscore, or the second one is a capital. -/
theorem Splits.breaks_iff {cs : List Char} {parts : List (List Char)} (h : Splits cs parts) {front gap back : List Char}
    {x y : Char} (hcs : cs = front ++ x :: (gap ++ y :: back)) (hx : x ≠ '_') (hy : y ≠ '_') (hgap : ∀ c ∈ gap, c = '_') :
    (∃ left right, parts = left ++ right ∧ left.flatten = (front ++ [x]).filter (· != '_')) ↔
      gap ≠ [] ∨ isCapital y = true := by
  -- on the parts; the first part ends before the first character, right behind it, or later
  induction h generalizing front with
  | nil => simp at hcs
  | skip _ ih =>
    cases front with
    | nil => exact absurd (List.cons.inj hcs).1.symm hx
    | cons c front =>
      obtain ⟨rfl, hrest⟩ := List.cons.inj hcs
      rw [List.cons_append, List.filter_cons_of_neg (by simp)]
      exact ih hrest
  | @part part rest parts hpart hend _ ih =>
    rw [List.append_cons] at hcs
    by_cases hends : front ++ [x] = part
    · -- the first part ends with the first character
      rw [hends] at hcs ⊢
      have hrest : rest = gap ++ y :: back := List.append_cancel_left hcs
      have hnext : gap ≠ [] ∨ isCapital y = true := by
        cases gap with
        | nil => exact Or.inr ((hend y (by rw [hrest]; rfl)).resolve_left hy)
        | cons c gap => exact Or.inl (List.cons_ne_nil _ _)
      exact iff_of_true ⟨[part], parts, rfl, by rw [List.flatten_singleton, hpart.filter_eq]⟩ hnext
    rcases List.append_eq_append_iff.mp hcs with ⟨between, hfront, hrest⟩ | ⟨between, hlong, hbehind⟩
    · rcases List.eq_nil_or_concat between with rfl | ⟨between, last, rfl⟩
      · exact absurd (by simpa using hfront) hends
      -- the first character is behind the first part
      rw [List.concat_eq_append, ← List.append_assoc] at hfront
      obtain ⟨rfl, hlast⟩ := List.append_inj' hfront rfl
      obtain rfl : x = last := (List.cons.inj hlast).1
      rw [List.append_assoc, List.filter_append, hpart.filter_eq, exists_left_cons_iff hpart.ne_nil]
      exact ih (by simpa using hrest)
    · cases between with
      | nil => exact absurd (by simpa using hlong.symm) hends
      | cons c between =>
        -- the first part goes on behind the first character, so it has both of them
        have hmem : c ∈ part := by simp [hlong]
        have hsame : gap = [] ∧ y = c := by
          cases gap with
          | nil => exact ⟨rfl, (List.cons.inj hbehind).1⟩
          | cons d gap =>
            obtain rfl : d = c := (List.cons.inj hbehind).1
            rw [hgap d List.mem_cons_self] at hmem
            exact absurd hmem hpart.not_mem
        have hsmall : isCapital y = false := by
          rw [hsame.2]
          exact (hlong ▸ hpart).not_isCapital (by simp)
        refine iff_of_false ?_ (by simp [hsame.1, hsmall])
        rintro ⟨left, right, hparts, hflatten⟩
        cases left with
        | nil => simp [hx] at hflatten
        | cons first left =>
          obtain ⟨rfl, -⟩ := List.cons.inj hparts
          have hshort := List.length_filter_le (· != '_') (front ++ [x])
          rw [← hflatten, List.flatten_cons, List.length_append, hlong, List.length_append, List.length_cons] at hshort
          omega

/-! ## Names -/

/-- A name of letters, digits and underscores. -/
def IsIdentifier (name : String) : Prop :=
  ∀ c ∈ name.toList, isLetterOrDigit c = true ∨ c = '_'

instance (name : String) : Decidable (IsIdentifier name) :=
  List.decidableBAll _ _

namespace IsIdentifier

variable {name : String}

theorem ascii (h : IsIdentifier name) : ∀ c ∈ name.toList, c.toNat < 128 := by
  intro c hc
  rcases h c hc with hletter | rfl
  · exact ascii_of_isLetterOrDigit hletter
  · decide

theorem not_isBlank (h : IsIdentifier name) : ∀ c ∈ name.toList, isBlank c = false := by
  intro c hc
  exact ascii_of_forall (P := fun c => isLetterOrDigit c = true ∨ c = '_' → isBlank c = false) (by decide +kernel)
    (h.ascii c hc) (h c hc)

theorem mem_of_mem_pieces (h : IsIdentifier name) {piece : List Char} {c : Char} (hpiece : piece ∈ pieces name.toList)
    (hc : c ∈ piece) : c ∈ name.toList ∧ c ≠ '_' := by
  have hmem : c ∈ (pieces name.toList).flatten := List.mem_flatten.mpr ⟨piece, hpiece, hc⟩
  rw [(splits_pieces h.not_isBlank).flatten_eq] at hmem
  simpa using hmem

/-- The parts of a name are its pieces in lower case. -/
theorem splitIdentifier_eq (h : IsIdentifier name) :
    splitIdentifier name = (pieces name.toList).map fun part => String.ofList (part.map Char.toLower) := by
  have hlower : ∀ part ∈ pieces name.toList, lower (String.ofList part) = String.ofList (part.map Char.toLower) := by
    intro part hpart
    rw [lower, String.toList_ofList, lowerFrom_of_ascii fun c hc => h.ascii c (h.mem_of_mem_pieces hpart hc).1]
  calc splitIdentifier name
      = (pieces name.toList).map (lower ∘ String.ofList) := by
        simp [splitIdentifier, pieces, cutAt, words, List.map_flatMap, List.flatMap_map]
    _ = _ := List.map_congr_left hlower

/-- A part has small letters and digits only. -/
theorem isSmall_of_mem (h : IsIdentifier name) {part : String} (hpart : part ∈ splitIdentifier name) :
    ∀ c ∈ part.toList, isSmall c = true := by
  rw [h.splitIdentifier_eq] at hpart
  obtain ⟨piece, hpiece, rfl⟩ := List.mem_map.mp hpart
  intro c hc
  rw [String.toList_ofList] at hc
  obtain ⟨d, hd, rfl⟩ := List.mem_map.mp hc
  obtain ⟨hname, hunder⟩ := h.mem_of_mem_pieces hpiece hd
  have hletter : isLetterOrDigit d = true := (h d hname).resolve_right hunder
  exact ascii_of_forall (P := fun c => isLetterOrDigit c = true → isSmall c.toLower = true) (by decide +kernel)
    (h.ascii d hname) hletter

end IsIdentifier

/-- A part of a name that is a term is a token of the text of every node with this name. -/
theorem mem_tokenize_of_mem_splitIdentifier {name part : String} (hpart : part ∈ splitIdentifier name)
    (hterm : IsTerm part) (signature docstring : Option String) :
    part ∈ tokenize (searchableText (some name) signature docstring) := by
  have hname : name.isEmpty = false := by
    rw [Bool.eq_false_iff]
    intro hempty
    rw [String.isEmpty_iff.mp hempty] at hpart
    cases hpart
  have hself : part ∈ tokenize part := by
    rw [hterm.tokenize_eq]
    exact List.mem_singleton_self part
  rw [searchableText, tokenize_joinWith]
  refine List.mem_flatMap.mpr ⟨part, ?_, hself⟩
  simp [shownText, hname, hpart]

/-- Parts fall apart behind the first characters of a name: some of the first parts make up these characters, in lower
case and without underscores. -/
def BreaksAfter (parts : List String) (front : String) : Prop :=
  ∃ left right, parts = left ++ right ∧ joinWith "" left = dropUnderscores (lower front)

theorem joinWith_lowered (parts : List (List Char)) :
    joinWith "" (parts.map fun part => String.ofList (part.map Char.toLower)) =
      String.ofList (parts.flatten.map Char.toLower) := by
  rw [joinWith, List.map_map, String.toList_empty, intercalate_nil_left, List.map_flatten]
  simp [Function.comp_def]

theorem dropUnderscores_lower {s : String} (h : ∀ c ∈ s.toList, c.toNat < 128) :
    dropUnderscores (lower s) = String.ofList ((s.toList.filter (· != '_')).map Char.toLower) := by
  rw [dropUnderscores, lower, String.toList_ofList, lowerFrom_of_ascii h, filter_map_toLower h]

/-- Parts fall apart where the pieces do that they come from. -/
theorem IsIdentifier.breaksAfter_iff {name : String} (h : IsIdentifier name) {front back : List Char}
    (hname : name.toList = front ++ back) :
    BreaksAfter (splitIdentifier name) (String.ofList front) ↔
      ∃ left right, pieces name.toList = left ++ right ∧ left.flatten = front.filter (· != '_') := by
  have hfront : ∀ c ∈ (String.ofList front).toList, c.toNat < 128 := by
    intro c hc
    rw [String.toList_ofList] at hc
    exact h.ascii c (hname ▸ List.mem_append_left _ hc)
  rw [BreaksAfter, h.splitIdentifier_eq, dropUnderscores_lower hfront, String.toList_ofList]
  constructor
  · rintro ⟨left, right, hparts, hjoin⟩
    obtain ⟨ps, qs, hpieces, rfl, -⟩ := List.map_eq_append_iff.mp hparts
    rw [joinWith_lowered] at hjoin
    have hlength : ps.flatten.length = (front.filter (· != '_')).length := by
      simpa only [String.length_ofList, List.length_map] using congrArg String.length hjoin
    -- both come first among the characters of the name
    have hwhole := (splits_pieces h.not_isBlank).flatten_eq
    rw [hpieces, List.flatten_append, hname, List.filter_append] at hwhole
    exact ⟨ps, qs, hpieces, (List.append_inj hwhole hlength).1⟩
  · rintro ⟨ps, qs, hpieces, hflatten⟩
    refine ⟨_, _, by rw [hpieces, List.map_append], ?_⟩
    rw [joinWith_lowered, hflatten]

end Search

open Search Text

/-- **The parts of a name.** For every name of letters, digits and underscores, the parts together are the name in lower
case without its underscores, and no part is empty. The parts fall apart exactly at the runs of underscores and in front
of the capitals: two characters with only underscores between them are in different parts exactly if there is an
underscore, or the second one is a capital. A part that starts with a letter, has more than two characters and is no stop
word is a token of the text of every node with this name. -/
theorem splitIdentifier_lossless {name : String} (h : IsIdentifier name) :
    joinWith "" (splitIdentifier name) = dropUnderscores (lower name) ∧
      "" ∉ splitIdentifier name ∧
      (∀ (front gap back : List Char) (x y : Char), name.toList = front ++ x :: (gap ++ y :: back) →
        x ≠ '_' → y ≠ '_' → (∀ c ∈ gap, c = '_') →
          (BreaksAfter (splitIdentifier name) (String.ofList (front ++ [x])) ↔ gap ≠ [] ∨ isCapital y = true)) ∧
      ∀ part ∈ splitIdentifier name, (∃ c ∈ part.toList.head?, isLetter c = true) → 2 < part.length →
        part ∉ stopWords → ∀ signature docstring : Option String,
          part ∈ tokenize (searchableText (some name) signature docstring) := by
  have hsplits := splits_pieces h.not_isBlank
  refine ⟨?_, ?_, fun front gap back x y hname hx hy hgap => ?_,
    fun part hpart hletter hlength hstop signature docstring => ?_⟩
  · rw [h.splitIdentifier_eq, joinWith_lowered, hsplits.flatten_eq, dropUnderscores_lower h.ascii]
  · rw [h.splitIdentifier_eq]
    intro hempty
    obtain ⟨piece, hpiece, heq⟩ := List.mem_map.mp hempty
    have hnil : piece = [] := by simpa using congrArg String.toList heq
    exact (hsplits.isPart_of_mem piece hpiece).ne_nil hnil
  · rw [h.breaksAfter_iff (by simpa using hname), hsplits.breaks_iff hname hx hy hgap]
  · exact mem_tokenize_of_mem_splitIdentifier hpart ⟨hletter, h.isSmall_of_mem hpart, hlength, hstop⟩ signature docstring

/-- A name with a run of underscores, capitals in a row and digits: its parts, a place where they fall apart and one where
they do not, and a token. -/
theorem splitIdentifier_sample :
    IsIdentifier "_parseHTTP__v2Response" ∧
      splitIdentifier "_parseHTTP__v2Response" = ["parse", "h", "t", "t", "p", "v2", "response"] ∧
      joinWith "" (splitIdentifier "_parseHTTP__v2Response") = "parsehttpv2response" ∧
      BreaksAfter (splitIdentifier "_parseHTTP__v2Response") "_parseHTTP" ∧
      ¬ BreaksAfter (splitIdentifier "_parseHTTP__v2Response") "_parseHTTP__v" ∧
      "response" ∈ tokenize (searchableText (some "_parseHTTP__v2Response") none (some "See RFC 9110.")) := by
  have h : IsIdentifier "_parseHTTP__v2Response" := by decide
  have hparts : splitIdentifier "_parseHTTP__v2Response" = ["parse", "h", "t", "t", "p", "v2", "response"] := by
    decide +kernel
  obtain ⟨hjoin, -, hbreaks, htokens⟩ := splitIdentifier_lossless h
  refine ⟨h, hparts, hjoin.trans (by decide +kernel), ?_, ?_, ?_⟩
  · have hgap := hbreaks "_parseHTT".toList ['_', '_'] "2Response".toList 'P' 'v' rfl (by decide) (by decide) (by simp)
    exact hgap.mpr (Or.inl (by simp))
  · have hwhole := hbreaks "_parseHTTP__".toList [] "Response".toList 'v' '2' rfl (by decide) (by decide) (by simp)
    exact fun hapart => absurd (hwhole.mp hapart) (by decide)
  · exact htokens "response" (by rw [hparts]; simp) ⟨'r', rfl, by decide⟩ (by decide) (by decide +kernel) none _

end CodeAtlas
