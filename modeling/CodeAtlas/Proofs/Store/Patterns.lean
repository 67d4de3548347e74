import Mathlib
import CodeAtlas.Proofs.Text.Pieces
import CodeAtlas.Store.Tables

/-!
# What a pattern matches

The rules of patterns are those of their four kinds of characters. A percent sign matches any characters, an underscore
matches one, a backslash makes the next character stand for itself, and all other characters stand for themselves, up to
the case of ASCII letters. A pattern is read as a list of pieces, and matched piece by piece against all that is left of
the text; this finds a match exactly if the rules give one.

A text in which every special character is escaped matches itself and its other spellings, and nothing else. So a query
that asks for a name between commas finds it where it stands in a list, whatever characters the name is made of.

## Main definitions

* `Matches`: the rules of patterns
* `SameLetters`: equality up to the case of ASCII letters
* `replaceChar`, `escapeInSteps`: escaping by three replacements, one after another
* `StandsIn`: the four conditions of a query

## Main results

* `like_iff_matches`: matching follows the rules, as far as pattern and text are visible
* `matches_escapeLikeChars_append_iff`: what an escaped text matches at the start of a pattern
* `matches_between_commas_iff`: the three patterns of a name match exactly if it stands between commas
* `standsIn_joinWith_iff`: when a query finds a name in a list
-/

namespace CodeAtlas.Store

open Text

/-! ## The rules -/

/-- What a pattern matches. -/
inductive Matches : List Char → List Char → Prop
  /-- The empty pattern matches the empty text. -/
  | nil : Matches [] []
  /-- A percent sign matches any characters. -/
  | any (front : List Char) {pattern text : List Char} (h : Matches pattern text) :
      Matches ('%' :: pattern) (front ++ text)
  /-- An underscore matches one character. -/
  | one (c : Char) {pattern text : List Char} (h : Matches pattern text) : Matches ('_' :: pattern) (c :: text)
  /-- A backslash makes the next character stand for itself. -/
  | escaped {c d : Char} {pattern text : List Char} (hc : sameLetter c d = true) (h : Matches pattern text) :
      Matches ('\\' :: c :: pattern) (d :: text)
  /-- All other characters stand for themselves. -/
  | plain {c d : Char} {pattern text : List Char} (hplain : ¬ (c = '\\' ∨ c = '%' ∨ c = '_'))
      (hc : sameLetter c d = true) (h : Matches pattern text) : Matches (c :: pattern) (d :: text)

section Rules

variable {c : Char} {pattern text : List Char}

theorem matches_nil_iff : Matches [] text ↔ text = [] := by
  constructor
  · rintro ⟨⟩
    rfl
  · rintro rfl
    exact .nil

theorem matches_any_iff : Matches ('%' :: pattern) text ↔ ∃ front rest, text = front ++ rest ∧ Matches pattern rest := by
  constructor
  · intro h
    cases h with
    | any front h => exact ⟨front, _, rfl, h⟩
    | plain hplain => simp at hplain
  · rintro ⟨front, rest, rfl, h⟩
    exact .any front h

theorem matches_one_iff : Matches ('_' :: pattern) text ↔ ∃ c rest, text = c :: rest ∧ Matches pattern rest := by
  constructor
  · intro h
    cases h with
    | one c h => exact ⟨c, _, rfl, h⟩
    | plain hplain => simp at hplain
  · rintro ⟨c, rest, rfl, h⟩
    exact .one c h

theorem matches_escaped_iff :
    Matches ('\\' :: c :: pattern) text ↔ ∃ d rest, text = d :: rest ∧ sameLetter c d = true ∧ Matches pattern rest := by
  constructor
  · intro h
    cases h with
    | escaped hc h => exact ⟨_, _, rfl, hc, h⟩
    | plain hplain => simp at hplain
  · rintro ⟨d, rest, rfl, hc, h⟩
    exact .escaped hc h

theorem matches_plain_iff (hplain : ¬ (c = '\\' ∨ c = '%' ∨ c = '_')) :
    Matches (c :: pattern) text ↔ ∃ d rest, text = d :: rest ∧ sameLetter c d = true ∧ Matches pattern rest := by
  constructor
  · intro h
    cases h with
    | plain _ hc h => exact ⟨_, _, rfl, hc, h⟩
    | any | one | escaped => simp at hplain
  · rintro ⟨d, rest, rfl, hc, h⟩
    exact .plain hplain hc h

/-- A backslash at the end makes nothing stand for itself. -/
theorem not_matches_backslash : ¬ Matches ['\\'] text := by
  intro h
  cases h with
  | plain hplain => simp at hplain

end Rules

/-! ## Pieces of patterns -/

theorem mem_leftOvers {cs rest : List Char} : rest ∈ leftOvers cs ↔ ∃ front, cs = front ++ rest := by
  induction cs with
  | nil => simp [leftOvers]
  | cons c cs ih =>
    rw [leftOvers, List.mem_cons, ih]
    constructor
    · rintro (rfl | ⟨front, rfl⟩)
      · exact ⟨[], rfl⟩
      · exact ⟨c :: front, rfl⟩
    · rintro ⟨front, hfront⟩
      cases front with
      | nil => exact Or.inl hfront.symm
      | cons d front => exact Or.inr ⟨front, (List.cons.inj hfront).2⟩

/-- A pattern has pieces, and they match a text. -/
def MatchesPieces (pattern : Option (List LikePiece)) (text : List Char) : Prop :=
  ∃ pieces ∈ pattern, matchPieces pieces text = true

section Pieces

variable {pattern : Option (List LikePiece)} {text : List Char}

theorem matchesPieces_any_iff :
    MatchesPieces (pattern.map (.any :: ·)) text ↔ ∃ front rest, text = front ++ rest ∧ MatchesPieces pattern rest := by
  simp only [MatchesPieces, Option.mem_map, ↓existsAndEq, and_true, matchPieces, List.any_eq_true, mem_leftOvers]
  constructor
  · rintro ⟨pieces, hpieces, rest, ⟨front, htext⟩, hrest⟩
    exact ⟨front, rest, htext, pieces, hpieces, hrest⟩
  · rintro ⟨front, rest, htext, pieces, hpieces, hrest⟩
    exact ⟨pieces, hpieces, rest, ⟨front, htext⟩, hrest⟩

theorem matchesPieces_one_iff :
    MatchesPieces (pattern.map (.one :: ·)) text ↔ ∃ c rest, text = c :: rest ∧ MatchesPieces pattern rest := by
  cases text <;> simp [MatchesPieces, matchPieces]

theorem matchesPieces_char_iff {c : Char} :
    MatchesPieces (pattern.map (.char c :: ·)) text ↔
      ∃ d rest, text = d :: rest ∧ sameLetter c d = true ∧ MatchesPieces pattern rest := by
  constructor
  · rintro ⟨_, hmapped, hmatch⟩
    obtain ⟨pieces, hpieces, rfl⟩ := Option.mem_map.mp hmapped
    cases text with
    | nil => cases hmatch
    | cons d rest =>
      rw [matchPieces, Bool.and_eq_true] at hmatch
      exact ⟨d, rest, rfl, hmatch.1, pieces, hpieces, hmatch.2⟩
  · rintro ⟨d, rest, rfl, hc, pieces, hpieces, hmatch⟩
    refine ⟨_, Option.mem_map.mpr ⟨pieces, hpieces, rfl⟩, ?_⟩
    rw [matchPieces, hc, hmatch, Bool.and_self]

end Pieces

/-- **A pattern is matched piece by piece exactly as the rules say.** -/
theorem matchesPieces_likePieces_iff (pattern text : List Char) :
    MatchesPieces (likePieces pattern) text ↔ Matches pattern text := by
  fun_induction likePieces pattern generalizing text with
  | case1 => simp [MatchesPieces, matchPieces, matches_nil_iff]
  | case2 => simp [MatchesPieces, not_matches_backslash]
  | case3 c cs ih => simp only [matchesPieces_char_iff, matches_escaped_iff, ih]
  | case4 cs ih => simp only [matchesPieces_any_iff, matches_any_iff, ih]
  | case5 cs ih => simp only [matchesPieces_one_iff, matches_one_iff, ih]
  | case6 c cs hlone hescape hany hone ih =>
    have hplain : ¬ (c = '\\' ∨ c = '%' ∨ c = '_') := by
      rintro (rfl | rfl | rfl)
      · cases cs with
        | nil => exact hlone rfl rfl
        | cons d cs => exact hescape d cs rfl rfl
      · exact hany rfl
      · exact hone rfl
    simp only [matchesPieces_char_iff, matches_plain_iff hplain, ih]

/-- **Matching follows the rules**, as far as pattern and text are visible. -/
theorem like_iff_matches {pattern text : String} :
    like pattern text = true ↔ Matches (visibleChars pattern) (visibleChars text) := by
  rw [like, ← matchesPieces_likePieces_iff]
  cases likePieces (visibleChars pattern) <;> simp [MatchesPieces]

/-! ## Letters -/

/-- Equality up to the case of ASCII letters. -/
def SameLetters (a b : List Char) : Prop :=
  a.map Char.toLower = b.map Char.toLower

instance (a b : List Char) : Decidable (SameLetters a b) :=
  inferInstanceAs (Decidable (_ = _))

theorem SameLetters.refl (a : List Char) : SameLetters a a := rfl

theorem eq_comma_of_toLower {c : Char} (h : c.toLower = ',') : c = ',' := by
  unfold Char.toLower at h
  split at h
  · next hupper =>
    -- a capital letter stays above the comma
    have hval := congrArg (fun d => d.val.toNat) h
    have hlow := UInt32.le_iff_toNat_le.mp hupper.1
    have hhigh := UInt32.le_iff_toNat_le.mp hupper.2
    simp at hval hlow hhigh
    omega
  · exact h

theorem SameLetters.not_mem_comma {w v : List Char} (h : SameLetters w v) (hv : ',' ∉ v) : ',' ∉ w := by
  intro hw
  have hlower : ',' ∈ v.map Char.toLower := h ▸ List.mem_map.mpr ⟨',', hw, rfl⟩
  obtain ⟨c, hc, hcomma⟩ := List.mem_map.mp hlower
  exact hv (eq_comma_of_toLower hcomma ▸ hc)

theorem sameLetters_cons_iff {c : Char} {v w : List Char} :
    SameLetters w (c :: v) ↔ ∃ d rest, w = d :: rest ∧ sameLetter c d = true ∧ SameLetters rest v := by
  cases w with
  | nil => simp [SameLetters]
  | cons d rest => simp [SameLetters, sameLetter, eq_comm (a := c.toLower)]

/-! ## Escaped texts -/

/-- The characters with some characters in place of each occurrence of one. -/
def replaceChar (c : Char) (others cs : List Char) : List Char :=
  cs.flatMap fun d => if d = c then others else [d]

/-- The pattern that stands for a text, made in three steps: backslashes are put in front of backslashes, then in front of
percent signs, and then in front of underscores. -/
def escapeInSteps (text : String) : String :=
  String.ofList (replaceChar '_' ['\\', '_'] (replaceChar '%' ['\\', '%'] (replaceChar '\\' ['\\', '\\'] text.toList)))

/-- **No step escapes what another one has put in.** -/
theorem escapeLike_eq_escapeInSteps (text : String) : escapeLike text = escapeInSteps text := by
  rw [escapeLike, escapeInSteps]
  refine congrArg String.ofList ?_
  induction text.toList with
  | nil => rfl
  | cons c cs ih =>
    rw [escapeLikeChars, ih]
    by_cases hslash : c = '\\'
    · simp [replaceChar, hslash]
    by_cases hpercent : c = '%'
    · simp [replaceChar, hpercent]
    by_cases hunder : c = '_'
    · simp [replaceChar, hunder]
    · simp [replaceChar, hslash, hpercent, hunder]

@[simp] theorem toList_escapeLike (v : String) : (escapeLike v).toList = escapeLikeChars v.toList :=
  String.toList_ofList

/-- **An escaped text matches its own spellings**, whatever follows it in the pattern. -/
theorem matches_escapeLikeChars_append_iff {v pattern text : List Char} :
    Matches (escapeLikeChars v ++ pattern) text ↔
      ∃ w rest, text = w ++ rest ∧ SameLetters w v ∧ Matches pattern rest := by
  induction v generalizing text with
  | nil => simp [escapeLikeChars, SameLetters]
  | cons c v ih =>
    have hstep : Matches (escapeLikeChars (c :: v) ++ pattern) text ↔
        ∃ d tail, text = d :: tail ∧ sameLetter c d = true ∧ Matches (escapeLikeChars v ++ pattern) tail := by
      rw [escapeLikeChars]
      split
      · exact matches_escaped_iff
      · next hplain => exact matches_plain_iff hplain
    rw [hstep]
    simp only [ih, sameLetters_cons_iff]
    constructor
    · rintro ⟨d, _, rfl, hc, w, rest, rfl, hw, hrest⟩
      exact ⟨d :: w, rest, rfl, ⟨d, w, rfl, hc, hw⟩, hrest⟩
    · rintro ⟨_, rest, rfl, ⟨d, w, rfl, hc, hw⟩, hrest⟩
      exact ⟨d, w ++ rest, rfl, hc, w, rest, rfl, hw, hrest⟩

theorem matches_escapeLikeChars_iff {v text : List Char} : Matches (escapeLikeChars v) text ↔ SameLetters text v := by
  rw [← List.append_nil (escapeLikeChars v), matches_escapeLikeChars_append_iff]
  simp [matches_nil_iff]

theorem matches_comma_iff {pattern text : List Char} :
    Matches (',' :: pattern) text ↔ ∃ rest, text = ',' :: rest ∧ Matches pattern rest := by
  rw [matches_plain_iff (by decide)]
  constructor
  · rintro ⟨d, rest, rfl, hd, hrest⟩
    rw [sameLetter, beq_iff_eq] at hd
    exact ⟨rest, by rw [eq_comma_of_toLower hd.symm], hrest⟩
  · rintro ⟨rest, rfl, hrest⟩
    exact ⟨',', rest, rfl, rfl, hrest⟩

/-! ## Names between commas -/

section Names

variable {v column : List Char}

theorem matches_comma_any_iff : Matches [',', '%'] column ↔ ∃ rest, column = ',' :: rest := by
  simp only [matches_comma_iff, matches_any_iff, matches_nil_iff]
  simp

theorem matches_start_iff : Matches (escapeLikeChars v ++ [',', '%']) column ↔
    ∃ w rest, column = w ++ ',' :: rest ∧ SameLetters w v := by
  simp only [matches_escapeLikeChars_append_iff, matches_comma_any_iff]
  constructor
  · rintro ⟨w, _, hcolumn, hw, rest, rfl⟩
    exact ⟨w, rest, hcolumn, hw⟩
  · rintro ⟨w, rest, hcolumn, hw⟩
    exact ⟨w, _, hcolumn, hw, rest, rfl⟩

theorem matches_middle_iff : Matches ('%' :: ',' :: (escapeLikeChars v ++ [',', '%'])) column ↔
    ∃ front w rest, column = front ++ ',' :: (w ++ ',' :: rest) ∧ SameLetters w v := by
  simp only [matches_any_iff, matches_comma_iff, matches_start_iff]
  constructor
  · rintro ⟨front, _, hcolumn, _, rfl, w, rest, rfl, hw⟩
    exact ⟨front, w, rest, hcolumn, hw⟩
  · rintro ⟨front, w, rest, hcolumn, hw⟩
    exact ⟨front, _, hcolumn, _, rfl, w, rest, rfl, hw⟩

theorem matches_end_iff : Matches ('%' :: ',' :: escapeLikeChars v) column ↔
    ∃ front w, column = front ++ ',' :: w ∧ SameLetters w v := by
  simp only [matches_any_iff, matches_comma_iff, matches_escapeLikeChars_iff]
  constructor
  · rintro ⟨front, _, hcolumn, w, rfl, hw⟩
    exact ⟨front, w, hcolumn, hw⟩
  · rintro ⟨front, w, hcolumn, hw⟩
    exact ⟨front, _, hcolumn, w, rfl, hw⟩

/-- **The three patterns of a name** match exactly if there is a comma and some piece between commas is spelled like the
name. -/
theorem matches_between_commas_iff (hcomma : ',' ∉ v) (column : List Char) :
    (Matches (escapeLikeChars v ++ [',', '%']) column ∨
        Matches ('%' :: ',' :: (escapeLikeChars v ++ [',', '%'])) column ∨
        Matches ('%' :: ',' :: escapeLikeChars v) column) ↔
      1 < (List.splitOn ',' column).length ∧ ∃ w ∈ List.splitOn ',' column, SameLetters w v := by
  have hsome : ∀ cs, 0 < (List.splitOn ',' cs).length := fun cs => List.length_pos_iff.mpr (List.splitOn_ne_nil ',' cs)
  rw [matches_start_iff, matches_middle_iff, matches_end_iff]
  constructor
  · rintro (⟨w, rest, rfl, hw⟩ | ⟨front, w, rest, rfl, hw⟩ | ⟨front, w, rfl, hw⟩) <;>
      have hpiece := List.splitOn_eq_singleton (hw.not_mem_comma hcomma)
    · have := hsome rest
      rw [List.splitOn_append_cons_self, hpiece]
      exact ⟨by simp; omega, w, by simp, hw⟩
    · have := hsome rest
      rw [List.splitOn_append_cons_self, List.splitOn_append_cons_self, hpiece]
      exact ⟨by simp; omega, w, by simp, hw⟩
    · have := hsome front
      rw [List.splitOn_append_cons_self, hpiece]
      exact ⟨by simp; omega, w, by simp, hw⟩
  · rintro ⟨hlength, w, hw, hsame⟩
    have hjoin := @List.intercalate_splitOn _ column _ _ ','
    obtain ⟨before, after, hsplit⟩ := List.append_of_mem hw
    rw [hsplit] at hjoin hlength
    -- the position of the piece decides which of the patterns matches
    by_cases hafter : after = []
    · subst hafter
      have hbefore : before ≠ [] := by
        rintro rfl
        simp at hlength
      rw [intercalate_append_singleton _ hbefore] at hjoin
      exact Or.inr (Or.inr ⟨_, w, by simpa using hjoin.symm, hsame⟩)
    · by_cases hbefore : before = []
      · subst hbefore
        rw [List.nil_append, List.intercalate_cons_of_ne_nil hafter] at hjoin
        exact Or.inl ⟨w, _, by simpa using hjoin.symm, hsame⟩
      · rw [intercalate_append _ hbefore (by simp), List.intercalate_cons_of_ne_nil hafter] at hjoin
        exact Or.inr (Or.inl ⟨_, w, _, by simpa using hjoin.symm, hsame⟩)

end Names

/-! ## Queries about a column -/

theorem bne_nul_of_not_mem {cs : List Char} (h : '\x00' ∉ cs) : ∀ c ∈ cs, (c != '\x00') = true := by
  intro c hc
  rw [bne_iff_ne]
  rintro rfl
  exact h hc

theorem visibleChars_of_not_mem {s : String} (h : '\x00' ∉ s.toList) : visibleChars s = s.toList :=
  List.takeWhile_eq_self_iff.mpr (bne_nul_of_not_mem h)

theorem mem_escapeLikeChars {c : Char} {v : List Char} (h : c ∈ escapeLikeChars v) : c = '\\' ∨ c ∈ v := by
  induction v with
  | nil => cases h
  | cons d v ih =>
    rw [escapeLikeChars] at h
    split at h <;> grind

theorem not_mem_escapeLikeChars {v : List Char} (hnul : '\x00' ∉ v) : '\x00' ∉ escapeLikeChars v := by
  intro h
  rcases mem_escapeLikeChars h with h | h
  · cases h
  · exact hnul h

/-- The four conditions of a query for a name in a column, where `matched` says which patterns match which texts: the name
stands at the start, in the middle or at the end, between commas, or it is the whole column. -/
def StandsIn (matched : String → String → Prop) (v column : String) : Prop :=
  matched (escapeLike v ++ ",%") column ∨ matched ("%," ++ escapeLike v ++ ",%") column ∨
    matched ("%," ++ escapeLike v) column ∨ column = v

theorem mentions_iff_standsIn {v column : String} :
    Tables.mentions v (some column) = true ↔ StandsIn (fun pattern text => like pattern text = true) v column := by
  simp only [Tables.mentions, StandsIn, Bool.or_eq_true, beq_iff_eq, or_assoc]

/-- What a query for a name without NUL sees of a column are the characters in front of the first NUL. -/
theorem mentions_iff_matches {v column : String} (hnul : '\x00' ∉ v.toList) :
    Tables.mentions v (some column) = true ↔
      (Matches (escapeLikeChars v.toList ++ [',', '%']) (visibleChars column) ∨
          Matches ('%' :: ',' :: (escapeLikeChars v.toList ++ [',', '%'])) (visibleChars column) ∨
          Matches ('%' :: ',' :: escapeLikeChars v.toList) (visibleChars column)) ∨ column = v := by
  have hescaped := not_mem_escapeLikeChars hnul
  have hstart : visibleChars (escapeLike v ++ ",%") = escapeLikeChars v.toList ++ [',', '%'] := by
    rw [visibleChars_of_not_mem (by simpa using hescaped)]
    simp
  have hmiddle : visibleChars ("%," ++ escapeLike v ++ ",%") =
      '%' :: ',' :: (escapeLikeChars v.toList ++ [',', '%']) := by
    rw [visibleChars_of_not_mem (by simpa using hescaped)]
    simp
  have hend : visibleChars ("%," ++ escapeLike v) = '%' :: ',' :: escapeLikeChars v.toList := by
    rw [visibleChars_of_not_mem (by simpa using hescaped)]
    simp
  rw [mentions_iff_standsIn, StandsIn, like_iff_matches, like_iff_matches, like_iff_matches, hstart, hmiddle, hend]
  simp only [or_assoc]

/-- A column that is a name without commas has one piece. -/
theorem joinWith_eq_iff {v : String} (hv : ',' ∉ v.toList) {names : List String} (hne : names ≠ [])
    (hcomma : ∀ w ∈ names, ',' ∉ w.toList) : joinWith "," names = v ↔ names = [v] := by
  constructor
  · intro h
    have hcut : cutAt ',' (joinWith "," names) = names := cutAt_joinWith rfl hne hcomma
    rw [← hcut, h]
    simp [cutAt, List.splitOn_eq_singleton hv]
  · rintro rfl
    exact joinWith_singleton _ _

/-- **A query finds a name in a list** exactly if it is the only name, or if there are several names and one of them is
spelled like it. -/
theorem standsIn_joinWith_iff {names : List String} (hne : names ≠ []) (hcomma : ∀ w ∈ names, ',' ∉ w.toList)
    {v : String} (hv : ',' ∉ v.toList) :
    StandsIn (fun pattern text => Matches pattern.toList text.toList) v (joinWith "," names) ↔
      names = [v] ∨ 2 ≤ names.length ∧ ∃ w ∈ names, SameLetters w.toList v.toList := by
  have hcolumn : List.splitOn ',' (joinWith "," names).toList = names.map String.toList := by
    rw [toList_joinWith]
    exact List.splitOn_intercalate ',' (by simpa using hcomma) (by simpa using hne)
  have hpatterns := matches_between_commas_iff hv (joinWith "," names).toList
  rw [hcolumn] at hpatterns
  simp only [StandsIn, String.toList_append, toList_escapeLike, joinWith_eq_iff hv hne hcomma]
  rw [← or_assoc, ← or_assoc, or_comm, or_assoc]
  refine or_congr_right (Iff.trans ?_ (hpatterns.trans ?_))
  · simp
  · simp [Nat.succ_le_iff]

/-- In texts without NUL a query sees everything. -/
theorem mentions_iff_standsIn_matches {v column : String} (hv : '\x00' ∉ v.toList) (hcolumn : '\x00' ∉ column.toList) :
    Tables.mentions v (some column) = true ↔
      StandsIn (fun pattern text => Matches pattern.toList text.toList) v column := by
  rw [mentions_iff_matches hv, visibleChars_of_not_mem hcolumn]
  simp [StandsIn, or_assoc]

theorem nul_not_mem_joinWith {names : List String} (h : ∀ w ∈ names, '\x00' ∉ w.toList) :
    '\x00' ∉ (joinWith "," names).toList := by
  rw [toList_joinWith]
  intro hmem
  rcases mem_or_exists_of_mem_intercalate hmem with hcomma | ⟨_, hpiece, hmem⟩
  · simp at hcomma
  · obtain ⟨w, hw, rfl⟩ := List.mem_map.mp hpiece
    exact h w hw hmem

/-- **A query looks for a name, and not for a pattern.** A name without commas is looked for in the column of a list of
names without commas, whatever other characters they have. By the rules of patterns, the four conditions hold exactly if
the name is the only one of the list, or the list has at least two names and one of them is spelled like the name. This
is what is computed if no NUL occurs. An escaped text is made by three replacements, and as a pattern it matches exactly
what is spelled like the text. -/
theorem query_finds_spellings {names : List String} (hne : names ≠ []) (hcomma : ∀ w ∈ names, ',' ∉ w.toList)
    {v : String} (hv : ',' ∉ v.toList) :
    let Found := names = [v] ∨ 2 ≤ names.length ∧ ∃ w ∈ names, SameLetters w.toList v.toList
    (StandsIn (fun pattern text => Matches pattern.toList text.toList) v (joinWith "," names) ↔ Found) ∧
      ('\x00' ∉ v.toList → (∀ w ∈ names, '\x00' ∉ w.toList) →
        (Tables.mentions v (some (joinWith "," names)) = true ↔ Found)) ∧
      ∀ text u : String, escapeLike u = escapeInSteps u ∧
        (Matches (escapeLike u).toList text.toList ↔ SameLetters text.toList u.toList) ∧
        ('\x00' ∉ u.toList → '\x00' ∉ text.toList →
          (like (escapeLike u) text = true ↔ SameLetters text.toList u.toList)) := by
  intro Found
  have hstands := standsIn_joinWith_iff hne hcomma hv
  refine ⟨hstands, fun hnul hnuls => ?_, fun text u => ⟨escapeLike_eq_escapeInSteps u, ?_, fun hu htext => ?_⟩⟩
  · exact (mentions_iff_standsIn_matches hnul (nul_not_mem_joinWith hnuls)).trans hstands
  · rw [toList_escapeLike]
    exact matches_escapeLikeChars_iff
  · have hescaped : '\x00' ∉ (escapeLike u).toList := by
      rw [toList_escapeLike]
      exact not_mem_escapeLikeChars hu
    rw [like_iff_matches, visibleChars_of_not_mem hescaped, visibleChars_of_not_mem htext, toList_escapeLike]
    exact matches_escapeLikeChars_iff

/-- Three names with special characters, and queries that would find other names if these characters were special. -/
theorem query_finds_special_names :
    let names := ["a_b", "100%", "C\\d"]
    let asked := fun v => Tables.mentions v (some (joinWith "," names))
    asked "A_B" = true ∧ asked "c\\D" = true ∧ asked "100%" = true ∧ asked "%" = false ∧ asked "a__" = false := by
  intro names asked
  have hasked : ∀ {v : String}, ',' ∉ v.toList → '\x00' ∉ v.toList →
      (asked v = true ↔ names = [v] ∨ 2 ≤ names.length ∧ ∃ w ∈ names, SameLetters w.toList v.toList) :=
    fun hv hnul => (query_finds_spellings (by decide) (by decide) hv).2.1 hnul (by decide)
  refine ⟨(hasked ?_ ?_).mpr ?_, (hasked ?_ ?_).mpr ?_, (hasked ?_ ?_).mpr ?_, Bool.eq_false_iff.mpr (mt (hasked ?_ ?_).mp ?_),
    Bool.eq_false_iff.mpr (mt (hasked ?_ ?_).mp ?_)⟩
  all_goals decide

end CodeAtlas.Store
