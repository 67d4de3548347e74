import Mathlib
import CodeAtlas.Json.Reader
import CodeAtlas.Proofs.Text.Pieces

/-!
# The grammar of JSON texts

Which texts write which values, as the standard says it: a value is a literal word, a number, a text in quotes, a list
or an object, with layout between the pieces. Of the numbers only the whole ones are described, in their one form
without leading zeros.

The reader finds the value of every such text, so that a text writes at most one value.

## Main definitions

* `Numeral`, `Numbered`: the digits of a whole number, and its sign
* `CodeUnit`, `Spelled`: the digits of an escape, and the characters of a text in quotes
* `Phrase`, `Spells`: the pieces of a JSON text, and how they are written
* `IsText`: a text writes a value

## Main results

* `Spelled.readText_eq`, `Numeral.readUnsigned_eq`: the reader reads texts and numbers
* `Spells.reads`: the reader reads every phrase, whatever may follow it
* `IsText.read?_eq`: the reader finds the value of a text
-/

namespace CodeAtlas.Json

/-! ## Numbers -/

/-- The digits of a natural number, without leading zeros. -/
inductive Numeral : List Char → Nat → Prop
  /-- One digit. -/
  | digit {d : Nat} (hd : d < 10) : Numeral [d.digitChar] d
  /-- A digit after the digits of a number other than zero. -/
  | snoc {w : List Char} {n d : Nat} (hw : Numeral w n) (hn : 0 < n) (hd : d < 10) :
      Numeral (w ++ [d.digitChar]) (n * 10 + d)

/-- A whole number, with its sign. -/
inductive Numbered : List Char → Int → Prop
  /-- A number without a sign. -/
  | plain {w : List Char} {n : Nat} (hw : Numeral w n) : Numbered w n
  /-- A number with a minus sign. -/
  | minus {w : List Char} {n : Nat} (hw : Numeral w n) : Numbered ('-' :: w) (-n)

theorem isDigit_digitChar {d : Nat} (hd : d < 10) : d.digitChar.isDigit = true ∧ d.digitChar.toNat - 48 = d := by
  interval_cases d <;> decide

namespace Numeral

variable {w : List Char} {n : Nat}

theorem isDigit_of_mem (h : Numeral w n) : ∀ c ∈ w, c.isDigit = true := by
  induction h with
  | digit hd => simpa using (isDigit_digitChar hd).1
  | snoc _ _ hd ih =>
    rw [List.forall_mem_append, List.forall_mem_singleton]
    exact ⟨ih, (isDigit_digitChar hd).1⟩

theorem ne_nil (h : Numeral w n) : w ≠ [] := by
  cases h <;> simp

/-- The reader knows the value of the digits. -/
theorem digitsValue_eq (h : Numeral w n) : digitsValue w = n := by
  induction h with
  | digit hd => simpa [digitsValue] using (isDigit_digitChar hd).2
  | snoc _ _ hd ih =>
    rw [digitsValue, List.foldl_append, ← digitsValue, ih]
    simpa using (isDigit_digitChar hd).2

end Numeral

/-- What may follow a value: nothing, or layout, or one of the marks that separate and end values. -/
def Stops (rest : List Char) : Prop :=
  ∀ c ∈ rest.head?, isLayout c = true ∨ c = ',' ∨ c = ']' ∨ c = '\x7d'

/-- What may follow a value does not continue a number. -/
theorem Stops.head_ne {rest : List Char} (h : Stops rest) :
    ∀ c ∈ rest.head?, c.isDigit = false ∧ c ≠ '.' ∧ c ≠ 'e' ∧ c ≠ 'E' := by
  intro c hc
  rcases h c hc with hlayout | rfl | rfl | rfl
  · simp only [isLayout, Bool.or_eq_true, beq_iff_eq] at hlayout
    rcases hlayout with ((rfl | rfl) | rfl) | rfl <;> decide
  all_goals decide

theorem Numeral.readUnsigned_eq {w rest : List Char} {n : Nat} (h : Numeral w n) (hrest : Stops rest)
    (negative : Bool) :
    readUnsigned negative (w ++ rest) = some (.int (if negative then -n else n), rest) := by
  have hdigits := h.isDigit_of_mem
  have hhead := hrest.head_ne
  have htake := Text.takeWhile_run_append hdigits fun c hc => (hhead c hc).1
  have hdrop := Text.dropWhile_run_append hdigits fun c hc => (hhead c hc).1
  have hne : w.isEmpty = false := by simpa using h.ne_nil
  unfold readUnsigned
  simp only [htake, hdrop, hne, h.digitsValue_eq]
  cases rest with
  | nil => rfl
  | cons c cs =>
    obtain ⟨-, hpoint, hlower, hupper⟩ := hhead c rfl
    simp [readExponent, hpoint, hlower, hupper]

theorem Numbered.readNumber_eq {w rest : List Char} {n : Int} (h : Numbered w n) (hrest : Stops rest) :
    readNumber (w ++ rest) = some (.int n, rest) := by
  cases h with
  | minus hw => exact hw.readUnsigned_eq hrest true
  | plain hw =>
    -- a digit is not a sign
    have hunsigned : readNumber (w ++ rest) = readUnsigned false (w ++ rest) := by
      obtain ⟨c, cs, rfl⟩ := List.exists_cons_of_ne_nil hw.ne_nil
      have hc := hw.isDigit_of_mem c List.mem_cons_self
      rw [List.cons_append, readNumber]
      rintro cs' h
      rw [(List.cons.inj h).1] at hc
      exact absurd hc (by decide)
    rw [hunsigned]
    exact hw.readUnsigned_eq hrest false

/-! ## Texts in quotes -/

/-- A hexadecimal digit, in lower or upper case. -/
def HexDigit (c : Char) (d : Nat) : Prop :=
  d < 16 ∧ (c = d.digitChar ∨ c = d.digitChar.toUpper)

/-- The four hexadecimal digits of a code unit of 16 bits. -/
def CodeUnit (a b c d : Char) (n : Nat) : Prop :=
  ∃ i j k l, HexDigit a i ∧ HexDigit b j ∧ HexDigit c k ∧ HexDigit d l ∧ n = ((i * 16 + j) * 16 + k) * 16 + l

theorem HexDigit.hexValue_eq {c : Char} {d : Nat} (h : HexDigit c d) : hexValue c = some d := by
  obtain ⟨hd, rfl | rfl⟩ := h <;> interval_cases d <;> decide

theorem CodeUnit.hexUnit_eq {a b c d : Char} {n : Nat} (h : CodeUnit a b c d n) : hexUnit a b c d = some n := by
  obtain ⟨i, j, k, l, hi, hj, hk, hl, rfl⟩ := h
  simp [hexUnit, hi.hexValue_eq, hj.hexValue_eq, hk.hexValue_eq, hl.hexValue_eq]

/-- The escapes of one letter, with the characters that they stand for. -/
def letterEscapes : List (Char × Char) :=
  [('"', '"'), ('\\', '\\'), ('/', '/'), ('b', '\x08'), ('f', '\x0c'), ('n', '\n'), ('r', '\r'), ('t', '\t')]

/-- Characters are written between quotes. -/
inductive Spelled : List Char → List Char → Prop
  /-- No characters. -/
  | nil : Spelled [] []
  /-- A character that stands for itself. -/
  | plain {c : Char} {w cs : List Char} (hc : 0x20 ≤ c.toNat ∧ c ≠ '"' ∧ c ≠ '\\') (hw : Spelled w cs) :
      Spelled (c :: w) (c :: cs)
  /-- An escape of one letter. -/
  | letter {e c : Char} {w cs : List Char} (he : (e, c) ∈ letterEscapes) (hw : Spelled w cs) :
      Spelled ('\\' :: e :: w) (c :: cs)
  /-- An escape of four digits, for a character of the basic plane. -/
  | unit {a b c d u : Char} {w cs : List Char} (hu : CodeUnit a b c d u.toNat) (hw : Spelled w cs) :
      Spelled ('\\' :: 'u' :: a :: b :: c :: d :: w) (u :: cs)
  /-- A pair of surrogates, for a character beyond the basic plane. -/
  | pair {a b c d a' b' c' d' u : Char} {high low : Nat} {w cs : List Char} (hhigh : CodeUnit a b c d high)
      (hlow : CodeUnit a' b' c' d' low) (hhigh' : 0xd800 ≤ high ∧ high < 0xdc00)
      (hlow' : 0xdc00 ≤ low ∧ low < 0xe000) (hu : u.toNat = 0x10000 + (high - 0xd800) * 1024 + (low - 0xdc00))
      (hw : Spelled w cs) :
      Spelled ('\\' :: 'u' :: a :: b :: c :: d :: '\\' :: 'u' :: a' :: b' :: c' :: d' :: w) (u :: cs)

theorem shortEscape_of_mem {e c : Char} (h : (e, c) ∈ letterEscapes) : shortEscape e = some c ∧ e ≠ 'u' := by
  simp only [letterEscapes, List.mem_cons, Prod.mk.injEq, List.not_mem_nil, or_false] at h
  rcases h with ⟨rfl, rfl⟩ | ⟨rfl, rfl⟩ | ⟨rfl, rfl⟩ | ⟨rfl, rfl⟩ | ⟨rfl, rfl⟩ | ⟨rfl, rfl⟩ | ⟨rfl, rfl⟩ | ⟨rfl, rfl⟩
  all_goals decide

/-- A character is no surrogate. -/
theorem toNat_valid (u : Char) : u.toNat < 0xd800 ∨ 0xdfff < u.toNat ∧ u.toNat < 0x110000 :=
  u.valid

/-- **The reader reads texts in quotes**, up to the closing quote. -/
theorem Spelled.readText_eq {w cs : List Char} (h : Spelled w cs) (rest : List Char) :
    readText (w ++ '"' :: rest) = some (cs, rest) := by
  induction h with
  | nil => simp [readText]
  | plain hc _ ih => simp [readText, hc.2.1, hc.2.2, ih]
  | letter he _ ih =>
    obtain ⟨hshort, hne⟩ := shortEscape_of_mem he
    simp [readText, hshort, hne, ih]
  | @unit a b c d u w cs hu _ ih =>
    -- a character is no surrogate, so that no second unit is asked for
    have hplane : ¬ (0xd800 ≤ u.toNat ∧ u.toNat < 0xdc00) := by
      have := toNat_valid u
      omega
    simp [readText, hu.hexUnit_eq, hplane, ih]
  | @pair a b c d a' b' c' d' u high low w cs hhigh hlow hhigh' hlow' hu _ ih =>
    have hjoin : joinUnits high low = u := by rw [joinUnits, ← hu, Char.ofNat_toNat]
    simp [readText, hhigh.hexUnit_eq, hhigh', hlow.hexUnit_eq, hjoin, ih]

/-! ## Values -/

/-- Characters that only separate pieces. -/
def Layout (ws : List Char) : Prop :=
  ∀ c ∈ ws, isLayout c = true

/-- A piece of a JSON text. -/
inductive Phrase where
  /-- A value. -/
  | value (v : Json)
  /-- The items of a list after its first one, up to the closing bracket. -/
  | items (vs : List Json)
  /-- A field of an object. -/
  | field (f : String × Json)
  /-- The fields of an object after its first one, up to the closing bracket. -/
  | fields (fs : List (String × Json))

/-- **The grammar of JSON texts.** -/
inductive Spells : Phrase → List Char → Prop
  | null : Spells (.value .null) ['n', 'u', 'l', 'l']
  | boolTrue : Spells (.value (.bool true)) ['t', 'r', 'u', 'e']
  | boolFalse : Spells (.value (.bool false)) ['f', 'a', 'l', 's', 'e']
  | int {n : Int} {w : List Char} (hw : Numbered w n) : Spells (.value (.int n)) w
  | str {s : String} {w : List Char} (hw : Spelled w s.toList) : Spells (.value (.str s)) ('"' :: (w ++ ['"']))
  /-- A list without items. -/
  | arrNil {ws : List Char} (hws : Layout ws) : Spells (.value (.arr [])) ('[' :: (ws ++ [']']))
  /-- A list with a first item. -/
  | arrCons {v : Json} {vs : List Json} {ws w more : List Char} (hws : Layout ws) (hv : Spells (.value v) w)
      (hvs : Spells (.items vs) more) : Spells (.value (.arr (v :: vs))) ('[' :: (ws ++ (w ++ more)))
  /-- An object without fields. -/
  | objNil {ws : List Char} (hws : Layout ws) : Spells (.value (.obj [])) ('\x7b' :: (ws ++ ['\x7d']))
  /-- An object with a first field. -/
  | objCons {f : String × Json} {fs : List (String × Json)} {ws w more : List Char} (hws : Layout ws)
      (hf : Spells (.field f) w) (hfs : Spells (.fields fs) more) :
      Spells (.value (.obj (f :: fs))) ('\x7b' :: (ws ++ (w ++ more)))
  | itemsNil {ws : List Char} (hws : Layout ws) : Spells (.items []) (ws ++ [']'])
  | itemsCons {v : Json} {vs : List Json} {ws ws' w more : List Char} (hws : Layout ws) (hws' : Layout ws')
      (hv : Spells (.value v) w) (hvs : Spells (.items vs) more) :
      Spells (.items (v :: vs)) (ws ++ ',' :: (ws' ++ (w ++ more)))
  | field {key : String} {v : Json} {k ws ws' w : List Char} (hk : Spelled k key.toList) (hws : Layout ws)
      (hws' : Layout ws') (hv : Spells (.value v) w) :
      Spells (.field (key, v)) ('"' :: (k ++ '"' :: (ws ++ ':' :: (ws' ++ w))))
  | fieldsNil {ws : List Char} (hws : Layout ws) : Spells (.fields []) (ws ++ ['\x7d'])
  | fieldsCons {f : String × Json} {fs : List (String × Json)} {ws ws' w more : List Char} (hws : Layout ws)
      (hws' : Layout ws') (hf : Spells (.field f) w) (hfs : Spells (.fields fs) more) :
      Spells (.fields (f :: fs)) (ws ++ ',' :: (ws' ++ (w ++ more)))

/-- A text writes a value, with layout before and after it. -/
def IsText (s : String) (v : Json) : Prop :=
  ∃ before w after, Layout before ∧ Spells (.value v) w ∧ Layout after ∧ s.toList = before ++ (w ++ after)

/-! ## What the reader makes of a phrase -/

/-- Layout in front of a piece is skipped. -/
theorem skipLayout_append {ws cs : List Char} (hws : Layout ws) (hcs : ∀ c ∈ cs.head?, isLayout c = false) :
    skipLayout (ws ++ cs) = cs :=
  Text.dropWhile_run_append hws hcs

theorem skipLayout_append_cons {ws cs : List Char} {c : Char} (hws : Layout ws) (hc : isLayout c = false) :
    skipLayout (ws ++ c :: cs) = c :: cs :=
  skipLayout_append hws (by simpa using hc)

/-- What is read of a phrase, in front of anything that may follow it. The fuel has to last for its characters. -/
def Reads (w : List Char) : Phrase → Prop
  | .value v => ∀ ws rest fuel, Layout ws → Stops rest → w.length ≤ fuel →
      readValue fuel (ws ++ (w ++ rest)) = some (v, rest)
  | .items vs => ∀ rest fuel, w.length ≤ fuel → readItems fuel (w ++ rest) = some (vs, rest)
  | .field f => ∀ ws rest fuel, Layout ws → Stops rest → w.length ≤ fuel →
      readField fuel (ws ++ (w ++ rest)) = some (f, rest)
  | .fields fs => ∀ rest fuel, w.length ≤ fuel → readFields fuel (w ++ rest) = some (fs, rest)

/-- A value or a field starts with a character that is neither layout nor a closing bracket. -/
def Starts (w : List Char) : Prop :=
  ∃ c cs, w = c :: cs ∧ isLayout c = false ∧ c ≠ ']' ∧ c ≠ '\x7d'

theorem Starts.head {w rest : List Char} (h : Starts w) :
    ∀ c ∈ (w ++ rest).head?, isLayout c = false ∧ c ≠ ']' ∧ c ≠ '\x7d' := by
  obtain ⟨c, cs, rfl, hc⟩ := h
  simpa using hc

/-- The first character of a number. -/
theorem Numbered.exists_eq_cons {w : List Char} {n : Int} (h : Numbered w n) :
    ∃ c cs, w = c :: cs ∧ (c = '-' ∨ c.isDigit = true) := by
  cases h with
  | minus hw => exact ⟨_, _, rfl, Or.inl rfl⟩
  | plain hw =>
    obtain ⟨c, cs, rfl⟩ := List.exists_cons_of_ne_nil hw.ne_nil
    exact ⟨c, cs, rfl, Or.inr (hw.isDigit_of_mem c List.mem_cons_self)⟩

/-- The first character of a number starts nothing else. -/
theorem ne_of_sign_or_digit {c : Char} (hc : c = '-' ∨ c.isDigit = true) :
    isLayout c = false ∧ c ∉ ['n', 't', 'f', '"', '[', '\x7b', ']', '\x7d'] := by
  constructor
  · rw [Bool.eq_false_iff]
    intro hlayout
    simp only [isLayout, Bool.or_eq_true, beq_iff_eq] at hlayout
    rcases hlayout with ((rfl | rfl) | rfl) | rfl <;> exact absurd hc (by decide)
  · intro hmem
    simp only [List.mem_cons, List.not_mem_nil, or_false] at hmem
    rcases hmem with rfl | rfl | rfl | rfl | rfl | rfl | rfl | rfl <;> exact absurd hc (by decide)

namespace Spells

theorem starts_value {v : Json} {w : List Char} (h : Spells (.value v) w) : Starts w := by
  cases h with
  | int hw =>
    obtain ⟨c, cs, rfl, hc⟩ := hw.exists_eq_cons
    obtain ⟨hlayout, hmem⟩ := ne_of_sign_or_digit hc
    simp only [List.mem_cons, List.not_mem_nil, or_false, not_or] at hmem
    exact ⟨c, cs, rfl, hlayout, by tauto, by tauto⟩
  | _ => exact ⟨_, _, rfl, by decide⟩

theorem starts_field {f : String × Json} {w : List Char} (h : Spells (.field f) w) : Starts w := by
  cases h with
  | field => exact ⟨_, _, rfl, by decide⟩

end Spells

theorem stops_append {ws cs : List Char} {c : Char} (hws : Layout ws) (hc : c = ',' ∨ c = ']' ∨ c = '\x7d') :
    Stops (ws ++ c :: cs) := by
  cases ws with
  | nil => simpa [Stops] using Or.inr hc
  | cons d ds => simpa [Stops] using Or.inl (hws d List.mem_cons_self)

theorem Spells.stops_items {vs : List Json} {w : List Char} (h : Spells (.items vs) w) (rest : List Char) :
    Stops (w ++ rest) := by
  cases h with
  | itemsNil hws => simpa using stops_append hws (Or.inr (Or.inl rfl))
  | itemsCons hws => simpa using stops_append hws (Or.inl rfl)

theorem Spells.stops_fields {fs : List (String × Json)} {w : List Char} (h : Spells (.fields fs) w) (rest : List Char) :
    Stops (w ++ rest) := by
  cases h with
  | fieldsNil hws => simpa using stops_append hws (Or.inr (Or.inr rfl))
  | fieldsCons hws => simpa using stops_append hws (Or.inl rfl)

theorem readValue_number {ws cs : List Char} {c : Char} (hws : Layout ws) (hc : c = '-' ∨ c.isDigit = true)
    (fuel : Nat) :
    readValue (fuel + 1) (ws ++ c :: cs) = readNumber (c :: cs) := by
  obtain ⟨hlayout, hmem⟩ := ne_of_sign_or_digit hc
  simp only [List.mem_cons, List.not_mem_nil, or_false, not_or] at hmem
  rw [readValue, skipLayout_append_cons hws hlayout]
  simp [hmem]

section Steps

variable {ws ws' w rest tail : List Char} {fuel : Nat} (hws : Layout ws) (hws' : Layout ws')

include hws

theorem readValue_str {s : String} (hw : Spelled w s.toList) :
    readValue (fuel + 1) (ws ++ '"' :: (w ++ '"' :: rest)) = some (.str s, rest) := by
  rw [readValue, skipLayout_append_cons hws (by decide)]
  simp [hw.readText_eq]

include hws'

theorem readValue_arr {v : Json} {vs : List Json} (hw : Starts w)
    (hv : readValue fuel (ws' ++ (w ++ tail)) = some (v, tail)) (hvs : readItems fuel tail = some (vs, rest)) :
    readValue (fuel + 1) (ws ++ '[' :: (ws' ++ (w ++ tail))) = some (.arr (v :: vs), rest) := by
  have hskip : skipLayout (ws' ++ (w ++ tail)) = w ++ tail := skipLayout_append hws' fun c hc => (hw.head c hc).1
  -- the list does not end here, since no item starts with the closing bracket
  obtain ⟨c, cs, rfl, -, hc, -⟩ := hw
  rw [List.cons_append] at hskip hv ⊢
  rw [readValue, skipLayout_append_cons hws (by decide)]
  simp [hskip, hc, hv, hvs]

theorem readValue_obj {f : String × Json} {fs : List (String × Json)} (hw : Starts w)
    (hf : readField fuel (ws' ++ (w ++ tail)) = some (f, tail)) (hfs : readFields fuel tail = some (fs, rest)) :
    readValue (fuel + 1) (ws ++ '\x7b' :: (ws' ++ (w ++ tail))) = some (.obj (f :: fs), rest) := by
  have hskip : skipLayout (ws' ++ (w ++ tail)) = w ++ tail := skipLayout_append hws' fun c hc => (hw.head c hc).1
  obtain ⟨c, cs, rfl, -, -, hc⟩ := hw
  rw [List.cons_append] at hskip hf ⊢
  rw [readValue, skipLayout_append_cons hws (by decide)]
  simp [hskip, hc, hf, hfs]

end Steps

/-- **The reader reads every phrase.** -/
theorem Spells.reads {p : Phrase} {w : List Char} (h : Spells p w) : Reads w p := by
  -- a phrase has a character of its own before the phrases in it, so the fuel that it leaves lasts for these
  induction h with
  | null =>
    rintro ws rest (_ | fuel) hws hrest hfuel
    · simp at hfuel
    · simp [readValue, skipLayout_append_cons hws (show isLayout 'n' = false by decide)]
  | boolTrue =>
    rintro ws rest (_ | fuel) hws hrest hfuel
    · simp at hfuel
    · simp [readValue, skipLayout_append_cons hws (show isLayout 't' = false by decide)]
  | boolFalse =>
    rintro ws rest (_ | fuel) hws hrest hfuel
    · simp at hfuel
    · simp [readValue, skipLayout_append_cons hws (show isLayout 'f' = false by decide)]
  | int hw =>
    -- a number is what starts with a sign or a digit
    obtain ⟨c, cs, rfl, hc⟩ := hw.exists_eq_cons
    rintro ws rest (_ | fuel) hws hrest hfuel
    · simp at hfuel
    · rw [List.cons_append, readValue_number hws hc]
      exact hw.readNumber_eq hrest
  | str hw =>
    rintro ws rest (_ | fuel) hws hrest hfuel
    · simp at hfuel
    · simpa using readValue_str hws hw
  | arrNil hws' =>
    rintro ws rest (_ | fuel) hws hrest hfuel
    · simp at hfuel
    · simp [readValue, skipLayout_append_cons hws (show isLayout '[' = false by decide),
        skipLayout_append_cons hws' (show isLayout ']' = false by decide)]
  | @arrCons v vs ws' w more hws' hv hvs ihv ihvs =>
    rintro ws rest (_ | fuel) hws hrest hfuel
    · simp at hfuel
    · simp only [List.length_cons, List.length_append] at hfuel
      have hfirst := ihv ws' (more ++ rest) fuel hws' (hvs.stops_items rest) (by omega)
      have hothers := ihvs rest fuel (by omega)
      simpa using readValue_arr hws hws' hv.starts_value hfirst hothers
  | objNil hws' =>
    rintro ws rest (_ | fuel) hws hrest hfuel
    · simp at hfuel
    · simp [readValue, skipLayout_append_cons hws (show isLayout '\x7b' = false by decide),
        skipLayout_append_cons hws' (show isLayout '\x7d' = false by decide)]
  | @objCons f fs ws' w more hws' hf hfs ihf ihfs =>
    rintro ws rest (_ | fuel) hws hrest hfuel
    · simp at hfuel
    · simp only [List.length_cons, List.length_append] at hfuel
      have hfirst := ihf ws' (more ++ rest) fuel hws' (hfs.stops_fields rest) (by omega)
      have hothers := ihfs rest fuel (by omega)
      simpa using readValue_obj hws hws' hf.starts_field hfirst hothers
  | itemsNil hws =>
    rintro rest (_ | fuel) hfuel
    · simp at hfuel
    · simp [readItems, skipLayout_append_cons hws (show isLayout ']' = false by decide)]
  | @itemsCons v vs ws ws' w more hws hws' hv hvs ihv ihvs =>
    rintro rest (_ | fuel) hfuel
    · simp at hfuel
    · simp only [List.length_cons, List.length_append] at hfuel
      have hfirst := ihv ws' (more ++ rest) fuel hws' (hvs.stops_items rest) (by omega)
      have hothers := ihvs rest fuel (by omega)
      simp [readItems, skipLayout_append_cons hws (show isLayout ',' = false by decide), hfirst, hothers]
  | @field key v k ws ws' w hk hws hws' hv ihv =>
    rintro ws₀ rest (_ | fuel) hws₀ hrest hfuel
    · simp at hfuel
    · simp only [List.length_cons, List.length_append] at hfuel
      have hvalue := ihv ws' rest fuel hws' hrest (by omega)
      simp [readField, skipLayout_append_cons hws₀ (show isLayout '"' = false by decide), hk.readText_eq,
        skipLayout_append_cons hws (show isLayout ':' = false by decide), hvalue]
  | fieldsNil hws =>
    rintro rest (_ | fuel) hfuel
    · simp at hfuel
    · simp [readFields, skipLayout_append_cons hws (show isLayout '\x7d' = false by decide)]
  | @fieldsCons f fs ws ws' w more hws hws' hf hfs ihf ihfs =>
    rintro rest (_ | fuel) hfuel
    · simp at hfuel
    · simp only [List.length_cons, List.length_append] at hfuel
      have hfirst := ihf ws' (more ++ rest) fuel hws' (hfs.stops_fields rest) (by omega)
      have hothers := ihfs rest fuel (by omega)
      simp [readFields, skipLayout_append_cons hws (show isLayout ',' = false by decide), hfirst, hothers]

/-- **The reader finds the value of a text.** -/
theorem IsText.read?_eq {s : String} {v : Json} (h : IsText s v) : read? s = some v := by
  obtain ⟨before, w, after, hbefore, hw, hafter, hs⟩ := h
  have hstops : Stops after := fun c hc => Or.inl (hafter c (List.mem_of_mem_head? hc))
  have hskip : skipLayout after = [] := by
    rw [skipLayout, List.dropWhile_eq_nil_iff]
    exact hafter
  have hread := hw.reads before after (s.toList.length + 1) hbefore hstops
    (by rw [hs, List.length_append, List.length_append]; omega)
  rw [← hs] at hread
  simp [read?, readChars, hread, hskip]

end CodeAtlas.Json
