import Mathlib
import CodeAtlas.Proofs.Text.Pieces
import CodeAtlas.Search.Words

/-!
# Tokens of texts that are put together

The tokens of a text are found by scanning its lower-case form from left to right: what is no letter is skipped, and a
letter starts a word, which goes on as long as letters and digits follow. Neither of the two steps looks across a space.
The form of a capital sigma depends on its neighbours, but a space is neither cased nor skipped among them, and a space
ends every word. So the tokens of texts with spaces between them are the tokens of the texts.

A token is a term: it has no capitals, and scanning it gives back the whole of it. So the tokens of a text are the tokens
of the text that they make up.

## Main definitions

* `Scans`: scanning characters for words
* `IsTerm`: the texts that are tokens

## Main results

* `lower_append_space`: lower case does not look across a space
* `tokenRuns_eq_iff_scans`: the runs of some characters are the words that are scanned
* `tokenize_eq_singleton_iff`: the terms are the texts that have themselves as their only token
* `tokenize_homomorphic`: the tokens of texts that are put together
-/

namespace CodeAtlas

/-! ## Lower case across a space -/

namespace Text

theorem meetsCased_cons (c : Char) (cs : List Char) :
    meetsCased (c :: cs) =
      if inRanges Table.caseIgnorable c.toNat then meetsCased cs else inRanges Table.cased c.toNat := by
  by_cases hc : inRanges Table.caseIgnorable c.toNat = true
  · rw [meetsCased, List.dropWhile_cons, if_pos hc, if_pos hc, meetsCased]
  · rw [meetsCased, List.dropWhile_cons, if_neg hc, if_neg hc]

/-- The nearest cased character is not looked for behind a space. -/
theorem meetsCased_append_space (xs ys : List Char) : meetsCased (xs ++ ' ' :: ys) = meetsCased xs := by
  induction xs with
  | nil =>
    have hskipped : inRanges Table.caseIgnorable ' '.toNat = false := by decide +kernel
    have hcased : inRanges Table.cased ' '.toNat = false := by decide +kernel
    rw [List.nil_append, meetsCased_cons, hskipped, hcased]
    rfl
  | cons x xs ih => rw [List.cons_append, meetsCased_cons, meetsCased_cons, ih]

/-- What stands in front of a space does not matter for what follows it. -/
theorem lowerFrom_append_space (xs ys cs : List Char) : lowerFrom (xs ++ ' ' :: ys) cs = lowerFrom xs cs := by
  induction cs generalizing xs with
  | nil => rfl
  | cons c cs ih =>
    have hrest : lowerFrom (c :: (xs ++ ' ' :: ys)) cs = lowerFrom (c :: xs) cs := ih (c :: xs)
    rw [lowerFrom, lowerFrom, hrest, meetsCased_append_space]

theorem lowerFrom_space (before a b : List Char) :
    lowerFrom before (a ++ ' ' :: b) = lowerFrom before a ++ ' ' :: lowerFrom [] b := by
  induction a generalizing before with
  | nil => exact congrArg (' ' :: ·) (lowerFrom_append_space [] before b)
  | cons c a ih => rw [List.cons_append, lowerFrom, lowerFrom, ih, meetsCased_append_space, List.append_assoc]

/-- **Lower case does not look across a space.** -/
theorem lower_append_space (a b : String) : lower (a ++ " " ++ b) = lower a ++ " " ++ lower b := by
  apply String.ext
  simpa [lower] using lowerFrom_space [] a.toList b.toList

/-! ## Lower-case forms -/

/-- All runs of the lower-case table lead beyond the capitals. -/
theorem capital_lt_add_lowerShift {n : Nat} (h : 128 ≤ n) : 90 < (n : Int) + lowerShift n := by
  have htable : ∀ r ∈ Table.lowercase, 90 < (r.1 : Int) + r.2.2.2 := by decide +kernel
  unfold lowerShift
  split
  · next r hr =>
    have hin := List.find?_some hr
    simp only [Bool.and_eq_true, decide_eq_true_eq] at hin
    have hrun := htable r (List.mem_of_find?_eq_some hr)
    omega
  · omega

theorem not_isCapital_ofNat {n : Nat} (h : 90 < n) : Search.isCapital (Char.ofNat n) = false := by
  have hnat : (Char.ofNat n).toNat = 0 ∨ 90 < (Char.ofNat n).toNat := by
    rw [Char.toNat_ofNat]
    split
    · exact Or.inr h
    · exact Or.inl rfl
  rw [Bool.eq_false_iff, Ne, Search.isCapital, Bool.and_eq_true, decide_eq_true_iff, decide_eq_true_iff, Char.le_def,
    Char.le_def, UInt32.le_iff_toNat_le, UInt32.le_iff_toNat_le]
  change ¬ (65 ≤ (Char.ofNat n).toNat ∧ (Char.ofNat n).toNat ≤ 90)
  omega

/-- No character becomes a capital. -/
theorem not_isCapital_of_mem_lowerChar {c d : Char} (h : d ∈ lowerChar c) : Search.isCapital d = false := by
  unfold lowerChar at h
  split at h
  · next hascii =>
    have hsmall : ∀ n < 128, Search.isCapital (Char.ofNat n).toLower = false := by decide +kernel
    rw [List.mem_singleton.mp h, ← Char.ofNat_toNat c]
    exact hsmall _ hascii
  next hascii =>
  split at h
  · simp only [List.mem_cons, List.not_mem_nil, or_false] at h
    rcases h with rfl | rfl <;> decide
  split at h
  · rw [List.mem_singleton.mp h]
    decide
  · rw [List.mem_singleton.mp h]
    have := capital_lt_add_lowerShift (Nat.not_lt.mp hascii)
    exact not_isCapital_ofNat (by omega)

/-- A text in lower case has no capitals. -/
theorem not_isCapital_of_mem_lowerFrom {before cs : List Char} {d : Char} (h : d ∈ lowerFrom before cs) :
    Search.isCapital d = false := by
  induction cs generalizing before with
  | nil => cases h
  | cons c cs ih =>
    rw [lowerFrom] at h
    rcases List.mem_append.mp h with h | h
    · split at h
      · rw [List.mem_singleton.mp h]
        decide
      · exact not_isCapital_of_mem_lowerChar h
    · exact ih h

/-- A small letter or a digit. -/
def isSmall (c : Char) : Bool :=
  Search.isLetterOrDigit c && !Search.isCapital c

/-- Letters and digits are ASCII characters. -/
theorem ascii_of_isLetterOrDigit {c : Char} (h : Search.isLetterOrDigit c = true) : c.toNat < 128 := by
  simp only [Search.isLetterOrDigit, Search.isLetter, Search.isCapital, Bool.and_eq_true, Bool.or_eq_true,
    decide_eq_true_iff, Char.le_def, UInt32.le_iff_toNat_le] at h
  change c.val.toNat < 128
  rcases h with (⟨-, hz⟩ | ⟨-, hz⟩) | ⟨-, hz⟩
  all_goals exact lt_of_le_of_lt hz (by decide)

theorem lowerChar_of_isSmall {c : Char} (h : isSmall c = true) : c.toNat ≠ 0x3a3 ∧ lowerChar c = [c] := by
  have hascii : c.toNat < 128 := ascii_of_isLetterOrDigit (Bool.and_eq_true_iff.mp h).1
  have hsmall : ∀ n < 128, isSmall (Char.ofNat n) = true → (Char.ofNat n).toLower = Char.ofNat n := by decide +kernel
  refine ⟨by omega, ?_⟩
  rw [lowerChar, if_pos hascii]
  simpa using hsmall c.toNat hascii (by simpa using h)

/-- Small letters and digits stay as they are. -/
theorem lowerFrom_of_isSmall {before cs : List Char} (h : ∀ c ∈ cs, isSmall c = true) : lowerFrom before cs = cs := by
  induction cs generalizing before with
  | nil => rfl
  | cons c cs ih =>
    obtain ⟨hsigma, hlower⟩ := lowerChar_of_isSmall (h c List.mem_cons_self)
    rw [lowerFrom, ih fun d hd => h d (List.mem_cons_of_mem _ hd), hlower]
    simp [hsigma]

end Text

namespace Search

open Text

/-! ## Scanning -/

/-- A word: a letter, and then letters and digits. -/
def IsWord (word : List Char) : Prop :=
  (∃ c ∈ word.head?, isLetter c = true) ∧ ∀ c ∈ word, isLetterOrDigit c = true

/-- Scanning characters for words, from left to right. What is no letter is skipped, and a word is as long as can be. -/
inductive Scans : List Char → List (List Char) → Prop
  | nil : Scans [] []
  | skip {c : Char} {cs : List Char} {words : List (List Char)} (hc : isLetter c = false) (h : Scans cs words) :
      Scans (c :: cs) words
  | word {word rest : List Char} {words : List (List Char)} (hword : IsWord word)
      (hend : ∀ c ∈ rest.head?, isLetterOrDigit c = false) (h : Scans rest words) : Scans (word ++ rest) (word :: words)

theorem isLetterOrDigit_of_isLetter {c : Char} (h : isLetter c = true) : isLetterOrDigit c = true := by
  rw [isLetterOrDigit, h, Bool.true_or]

theorem isLetter_eq_false {c : Char} (h : isLetterOrDigit c = false) : isLetter c = false :=
  Bool.eq_false_iff.mpr fun hc => Bool.eq_false_iff.mp h (isLetterOrDigit_of_isLetter hc)

/-- The runs are scanned. The current run is a word that what follows goes on with. -/
theorem scans_tokenRunsFrom (run cs : List Char) (hrun : run = [] ∨ IsWord run.reverse) :
    Scans (run.reverse ++ cs) (tokenRunsFrom run cs) := by
  induction cs generalizing run with
  | nil =>
    rw [tokenRunsFrom]
    split
    · next hempty =>
      rw [List.isEmpty_iff.mp hempty]
      exact .nil
    · next hne =>
      refine .word (hrun.resolve_left fun h => hne (List.isEmpty_iff.mpr h)) (by simp) .nil
  | cons c cs ih =>
    rw [tokenRunsFrom]
    split
    · next hempty =>
      rw [List.isEmpty_iff.mp hempty]
      split
      · next hc =>
        refine ih [c] (Or.inr ⟨⟨c, rfl, hc⟩, ?_⟩)
        simpa using isLetterOrDigit_of_isLetter hc
      · next hc => exact .skip (Bool.eq_false_iff.mpr hc) (ih [] (Or.inl rfl))
    next hne =>
    have hword : IsWord run.reverse := hrun.resolve_left fun h => hne (List.isEmpty_iff.mpr h)
    split
    · next hc =>
      have hlonger : IsWord (c :: run).reverse := by
        obtain ⟨⟨first, hfirst, hletter⟩, hall⟩ := hword
        rw [List.reverse_cons]
        refine ⟨⟨first, ?_, hletter⟩, ?_⟩
        · rw [List.head?_append, hfirst]
          rfl
        · intro d hd
          rcases List.mem_append.mp hd with hd | hd
          · exact hall d hd
          · rwa [List.mem_singleton.mp hd]
      have := ih (c :: run) (Or.inr hlonger)
      rwa [List.reverse_cons, List.append_assoc] at this
    · next hc =>
      have hc : isLetterOrDigit c = false := Bool.eq_false_iff.mpr hc
      refine .word hword ?_ (.skip (isLetter_eq_false hc) (ih [] (Or.inl rfl)))
      simpa using hc

/-- A run takes in all letters and digits that follow it. -/
theorem tokenRunsFrom_append {run word rest : List Char} (hrun : run ≠ []) (hword : ∀ c ∈ word, isLetterOrDigit c = true)
    (hend : ∀ c ∈ rest.head?, isLetterOrDigit c = false) :
    tokenRunsFrom run (word ++ rest) = (run.reverse ++ word) :: tokenRunsFrom [] rest := by
  have hne : run.isEmpty = false := by simpa using hrun
  induction word generalizing run with
  | nil =>
    cases rest with
    | nil => simp [tokenRunsFrom, hne]
    | cons c rest =>
      have hc := hend c rfl
      simp [tokenRunsFrom, hne, hc, isLetter_eq_false hc]
  | cons c word ih =>
    rw [List.forall_mem_cons] at hword
    rw [List.cons_append, tokenRunsFrom, hne, hword.1]
    have hlonger : c :: run ≠ [] := List.cons_ne_nil _ _
    simpa using ih hlonger hword.2 rfl

/-- **The runs of some characters are the words that are scanned.** -/
theorem tokenRuns_eq_iff_scans {cs : List Char} {words : List (List Char)} : tokenRuns cs = words ↔ Scans cs words := by
  constructor
  · rintro rfl
    exact scans_tokenRunsFrom [] cs (Or.inl rfl)
  · intro h
    induction h with
    | nil => rfl
    | skip hc _ ih =>
      rw [tokenRuns, tokenRunsFrom, hc]
      exact ih
    | @word word rest words hword hend _ ih =>
      obtain ⟨⟨c, hc, hletter⟩, hall⟩ := hword
      obtain ⟨tail, rfl⟩ := List.head?_eq_some_iff.mp hc
      rw [List.forall_mem_cons] at hall
      have hrun : tokenRunsFrom [c] (tail ++ rest) = _ := tokenRunsFrom_append (List.cons_ne_nil c []) hall.2 hend
      rw [tokenRuns, List.cons_append, tokenRunsFrom, hletter, ← ih]
      exact hrun

theorem scans_tokenRuns (cs : List Char) : Scans cs (tokenRuns cs) :=
  tokenRuns_eq_iff_scans.mp rfl

/-- A space ends every word. -/
theorem Scans.append_space {a b : List Char} {words words' : List (List Char)} (ha : Scans a words)
    (hb : Scans b words') : Scans (a ++ ' ' :: b) (words ++ words') := by
  induction ha with
  | nil => exact .skip (by decide) hb
  | skip hc _ ih => exact .skip hc ih
  | @word word rest words hword hend _ ih =>
    rw [List.append_assoc, List.cons_append]
    refine .word hword ?_ ih
    cases rest with
    | nil =>
      intro c hc
      obtain rfl : ' ' = c := Option.some.inj hc
      decide
    | cons c rest => exact hend

theorem Scans.of_mem {cs : List Char} {words : List (List Char)} (h : Scans cs words) :
    ∀ word ∈ words, IsWord word ∧ ∀ c ∈ word, c ∈ cs := by
  induction h with
  | nil => simp
  | skip _ _ ih => exact fun word hword => ⟨(ih word hword).1, fun c hc => List.mem_cons_of_mem _ ((ih word hword).2 c hc)⟩
  | word hword _ _ ih =>
    intro other hother
    rcases List.mem_cons.mp hother with rfl | hother
    · exact ⟨hword, fun c hc => List.mem_append_left _ hc⟩
    · exact ⟨(ih other hother).1, fun c hc => List.mem_append_right _ ((ih other hother).2 c hc)⟩

theorem IsWord.tokenRuns_eq {word : List Char} (h : IsWord word) : tokenRuns word = [word] := by
  have hscans : Scans (word ++ []) [word] := .word h (by simp) .nil
  rw [List.append_nil] at hscans
  exact tokenRuns_eq_iff_scans.mpr hscans

/-! ## Terms -/

/-- A term: three or more small letters and digits, a letter first, and no stop word. -/
def IsTerm (w : String) : Prop :=
  (∃ c ∈ w.toList.head?, isLetter c = true) ∧ (∀ c ∈ w.toList, isSmall c = true) ∧ 2 < w.length ∧ w ∉ stopWords

instance (w : String) : Decidable (IsTerm w) :=
  inferInstanceAs (Decidable (_ ∧ _))

/-- The tokens of a text are terms. -/
theorem isTerm_of_mem_tokenize {text w : String} (h : w ∈ tokenize text) : IsTerm w := by
  obtain ⟨hw, htoken⟩ := List.mem_filter.mp h
  obtain ⟨run, hrun, rfl⟩ := List.mem_map.mp hw
  obtain ⟨⟨hfirst, hall⟩, hmem⟩ := (scans_tokenRuns _).of_mem run hrun
  rw [isToken, Bool.and_eq_true, decide_eq_true_iff, Bool.not_eq_true', Bool.eq_false_iff, Ne, List.contains_iff_mem]
    at htoken
  refine ⟨by simpa using hfirst, fun c hc => ?_, htoken⟩
  rw [String.toList_ofList] at hc
  have hlower := hmem c hc
  rw [lower, String.toList_ofList] at hlower
  rw [isSmall, hall c hc, not_isCapital_of_mem_lowerFrom hlower]
  rfl

theorem IsTerm.tokenize_eq {w : String} (h : IsTerm w) : tokenize w = [w] := by
  obtain ⟨hfirst, hsmall, hlength, hstop⟩ := h
  have hword : IsWord w.toList := ⟨hfirst, fun c hc => (Bool.and_eq_true_iff.mp (hsmall c hc)).1⟩
  have htoken : isToken w = true := by simp [isToken, hlength, hstop]
  rw [tokenize, lower, String.toList_ofList, lowerFrom_of_isSmall hsmall, hword.tokenRuns_eq]
  simp [htoken]

/-- **The terms are the texts that have themselves as their only token.** -/
theorem tokenize_eq_singleton_iff {w : String} : tokenize w = [w] ↔ IsTerm w :=
  ⟨fun h => isTerm_of_mem_tokenize (h ▸ List.mem_singleton_self w), IsTerm.tokenize_eq⟩

/-! ## Texts that are put together -/

/-- **The tokens of two texts with a space between them** are those of the texts. -/
theorem tokenize_append_space (a b : String) : tokenize (a ++ " " ++ b) = tokenize a ++ tokenize b := by
  have hruns : tokenRuns (lower (a ++ " " ++ b)).toList =
      tokenRuns (lower a).toList ++ tokenRuns (lower b).toList := by
    rw [lower_append_space, tokenRuns_eq_iff_scans]
    simpa using (scans_tokenRuns (lower a).toList).append_space (scans_tokenRuns (lower b).toList)
  rw [tokenize, hruns, List.map_append, List.filter_append]
  rfl

/-- The tokens of texts with spaces between them are those of the texts. -/
theorem tokenize_joinWith (texts : List String) : tokenize (joinWith " " texts) = texts.flatMap tokenize := by
  induction texts with
  | nil => decide +kernel
  | cons text rest ih =>
    by_cases hrest : rest = []
    · subst hrest
      rw [joinWith_singleton, List.flatMap_singleton]
    · have hjoin : joinWith " " (text :: rest) = text ++ " " ++ joinWith " " rest := by
        apply String.ext
        simp only [toList_joinWith, List.map_cons, String.toList_append]
        exact List.intercalate_cons_of_ne_nil (by simpa using hrest)
      rw [hjoin, tokenize_append_space, ih, List.flatMap_cons]

theorem flatMap_shownText (text : Option String) : (shownText text).flatMap tokenize = text.elim [] tokenize := by
  cases text with
  | none => rfl
  | some s =>
    by_cases hs : s = ""
    · subst hs
      decide +kernel
    · simp [shownText, hs]

end Search

open Search Text

/-- **The tokens of texts that are put together.** The tokens of two texts with a space between them are those of the
first text and then those of the second. The tokens of a text are the tokens of the text that they make up with spaces
between them, and a text has itself as its only token exactly if it is a term. So the tokens of the text that a node is
found by are those of its name, of each part of its name, of its signature and of its documentation, in this order; what
is absent or empty has none. -/
theorem tokenize_homomorphic :
    (∀ a b : String, tokenize (a ++ " " ++ b) = tokenize a ++ tokenize b) ∧
      (∀ a : String, tokenize (joinWith " " (tokenize a)) = tokenize a) ∧
      (∀ w : String, tokenize w = [w] ↔ IsTerm w) ∧
      ∀ name signature docstring : Option String,
        tokenize (searchableText name signature docstring) =
          name.elim [] tokenize ++ (name.elim [] splitIdentifier).flatMap tokenize ++ signature.elim [] tokenize ++
            docstring.elim [] tokenize := by
  refine ⟨tokenize_append_space, fun a => ?_, fun w => tokenize_eq_singleton_iff, fun name signature docstring => ?_⟩
  · calc tokenize (joinWith " " (tokenize a))
        = (tokenize a).flatMap tokenize := tokenize_joinWith _
      _ = (tokenize a).flatMap fun w => [w] := List.flatMap_congr fun w hw => (isTerm_of_mem_tokenize hw).tokenize_eq
      _ = tokenize a := List.flatMap_singleton' _
  · have hnames : ((shownText name).flatMap fun n => n :: splitIdentifier n).flatMap tokenize =
        name.elim [] tokenize ++ (name.elim [] splitIdentifier).flatMap tokenize := by
      cases name with
      | none => rfl
      | some n =>
        by_cases hn : n = ""
        · subst hn
          decide +kernel
        · simp [shownText, hn]
    rw [searchableText, tokenize_joinWith, List.flatMap_append, List.flatMap_append, hnames, flatMap_shownText,
      flatMap_shownText]

end CodeAtlas
