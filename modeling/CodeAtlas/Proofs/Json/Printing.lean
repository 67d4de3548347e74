import Mathlib
import CodeAtlas.Json.Printer
import CodeAtlas.Proofs.Json.Grammar

/-!
# Printed values are JSON texts

The indented form of a value without doubles is a text of the grammar, in ASCII, whatever the characters of its texts
and whatever the size of its numbers. So the reader finds the value again.

## Main definitions

* `Keyed`: values without doubles, with a condition on the keys of their objects
* `Ascii`: only ASCII characters

## Main results

* `numeral_toDigits`, `spelled_escapeChars`: how numbers and texts are written
* `Keyed.spells`, `Keyed.ascii`: how values are written, at every level
* `Keyed.isText_indented`, `Keyed.ascii_indented`: the whole text
-/

namespace CodeAtlas.Json

/-- A value without doubles, of whose objects the keys are as `P` says. -/
inductive Keyed (P : List String → Prop) : Json → Prop
  | null : Keyed P .null
  | bool (b : Bool) : Keyed P (.bool b)
  | int (n : Int) : Keyed P (.int n)
  | str (s : String) : Keyed P (.str s)
  | arr {vs : List Json} (h : ∀ v ∈ vs, Keyed P v) : Keyed P (.arr vs)
  | obj {fs : List (String × Json)} (hkeys : P (fs.map Prod.fst)) (h : ∀ f ∈ fs, Keyed P f.2) : Keyed P (.obj fs)

variable {P : List String → Prop} {v : Json}

/-! ## Numbers -/

theorem numeral_toDigits (n : Nat) : Numeral (Nat.toDigits 10 n) n := by
  induction n using Nat.strongRecOn with
  | ind n ih =>
    rcases Nat.lt_or_ge n 10 with hlt | hge
    · rw [Nat.toDigits_of_lt_base hlt]
      exact .digit hlt
    · -- the last digit stands behind those of a smaller number
      have hlast : n % 10 < 10 := Nat.mod_lt n (by omega)
      have hsplit := Numeral.snoc (ih (n / 10) (by omega)) (by omega) hlast
      rwa [← Nat.toDigits_of_base_le (by omega) hge, Nat.div_add_mod' n 10] at hsplit

theorem numbered_intDigits (n : Int) : Numbered (intDigits n) n := by
  have hdigits := numeral_toDigits n.natAbs
  rw [intDigits]
  split
  · next hneg => simpa [abs_of_neg hneg] using Numbered.minus hdigits
  · next hpos => simpa [abs_of_nonneg (not_lt.mp hpos)] using Numbered.plain hdigits

/-! ## Texts -/

theorem hexDigit_eq {n : Nat} (hn : n < 16) : hexDigit n = n.digitChar := by
  interval_cases n <;> decide

theorem hexDigit_hexDigit (n : Nat) : HexDigit (hexDigit (n % 16)) (n % 16) :=
  have hlt : n % 16 < 16 := Nat.mod_lt n (by omega)
  ⟨hlt, Or.inl (hexDigit_eq hlt)⟩

/-- The four digits of an escape. -/
theorem codeUnit_of_lt {n : Nat} (hn : n < 0x10000) :
    CodeUnit (hexDigit (n / 4096 % 16)) (hexDigit (n / 256 % 16)) (hexDigit (n / 16 % 16)) (hexDigit (n % 16)) n :=
  ⟨_, _, _, _, hexDigit_hexDigit _, hexDigit_hexDigit _, hexDigit_hexDigit _, hexDigit_hexDigit _, by omega⟩

theorem spelled_unitEscape {u : Char} {w cs : List Char} (hu : u.toNat < 0x10000) (hw : Spelled w cs) :
    Spelled (unitEscape u.toNat ++ w) (u :: cs) :=
  .unit (codeUnit_of_lt hu) hw

/-- A character beyond the basic plane is written as a pair of surrogates. -/
theorem spelled_pair {u : Char} {w cs : List Char} (hu : 0x10000 ≤ u.toNat) (hw : Spelled w cs) :
    Spelled (unitEscape (0xd800 + (u.toNat - 0x10000) / 1024) ++
      (unitEscape (0xdc00 + (u.toNat - 0x10000) % 1024) ++ w)) (u :: cs) := by
  have hvalid := toNat_valid u
  exact .pair (codeUnit_of_lt (by omega)) (codeUnit_of_lt (by omega)) ⟨by omega, by omega⟩ ⟨by omega, by omega⟩
    (by omega) hw

/-- How a character is written: by an escape of one letter, as itself, or by one or two code units. -/
theorem escapeChar_cases (c : Char) :
    (∃ e, (e, c) ∈ letterEscapes ∧ escapeChar c = ['\\', e]) ∨
      ((0x20 ≤ c.toNat ∧ c ≠ '"' ∧ c ≠ '\\') ∧ c.toNat < 0x7f ∧ escapeChar c = [c]) ∨
      (c.toNat < 0x10000 ∧ escapeChar c = unitEscape c.toNat) ∨
      0x10000 ≤ c.toNat ∧ escapeChar c = unitEscape (0xd800 + (c.toNat - 0x10000) / 1024) ++
        unitEscape (0xdc00 + (c.toNat - 0x10000) % 1024) := by
  by_cases hshort : c ∈ ['"', '\\', '\n', '\r', '\t', '\x08', '\x0c']
  · left
    simp only [List.mem_cons, List.not_mem_nil, or_false] at hshort
    rcases hshort with rfl | rfl | rfl | rfl | rfl | rfl | rfl
    all_goals exact ⟨_, by decide, rfl⟩
  · right
    simp only [List.mem_cons, List.not_mem_nil, or_false, not_or] at hshort
    obtain ⟨hquote, hbackslash, hnewline, hreturn, htab, hback, hfeed⟩ := hshort
    rw [escapeChar, if_neg hquote, if_neg hbackslash, if_neg hnewline, if_neg hreturn, if_neg htab, if_neg hback,
      if_neg hfeed]
    split
    · next hplain => exact Or.inl ⟨⟨hplain.1, hquote, hbackslash⟩, hplain.2, rfl⟩
    split
    · next hplane => exact Or.inr (Or.inl ⟨hplane, rfl⟩)
    · next hplane => exact Or.inr (Or.inr ⟨not_lt.mp hplane, rfl⟩)

theorem spelled_escapeChar (c : Char) {w cs : List Char} (hw : Spelled w cs) :
    Spelled (escapeChar c ++ w) (c :: cs) := by
  obtain ⟨e, he, hc⟩ | ⟨hplain, -, hc⟩ | ⟨hplane, hc⟩ | ⟨hplane, hc⟩ := escapeChar_cases c <;> rw [hc]
  · exact .letter he hw
  · exact .plain hplain hw
  · exact spelled_unitEscape hplane hw
  · rw [List.append_assoc]
    exact spelled_pair hplane hw

/-- **Texts are written in quotes.** -/
theorem spelled_escapeChars (cs : List Char) : Spelled (escapeChars cs) cs := by
  induction cs with
  | nil => exact .nil
  | cons c cs ih => exact spelled_escapeChar c ih

example : escapeChars ['"', 'é', '𝄞'] = "\\\"\\u00e9\\ud834\\udd1e".toList := by decide

/-! ## Values -/

theorem layout_nil : Layout [] := by
  simp [Layout]

theorem layout_newLine (level : Nat) : Layout (newLine level) := by
  intro c hc
  rcases List.mem_cons.mp hc with rfl | hc
  · decide
  · rw [List.eq_of_mem_replicate hc]
    decide

section Spells

variable {level : Nat} (outer : Nat)

/-- A field, with a blank after the colon. -/
theorem spells_field {f : String × Json} (h : Spells (.value f.2) (indentedChars level f.2)) :
    Spells (.field f) (quoted f.1 ++ ':' :: ' ' :: indentedChars level f.2) := by
  have hblank : Layout [' '] := by simp [Layout, isLayout]
  simpa [quoted] using Spells.field (spelled_escapeChars f.1.toList) layout_nil hblank h

theorem spells_items {vs : List Json} (h : ∀ v ∈ vs, Spells (.value v) (indentedChars level v)) :
    Spells (.items vs) (indentedItems level vs ++ (newLine outer ++ [']'])) := by
  induction vs with
  | nil => exact .itemsNil (layout_newLine outer)
  | cons v vs ih =>
    obtain ⟨hv, hvs⟩ := List.forall_mem_cons.mp h
    simpa [indentedItems] using Spells.itemsCons layout_nil (layout_newLine level) hv (ih hvs)

theorem spells_fields {fs : List (String × Json)} (h : ∀ f ∈ fs, Spells (.value f.2) (indentedChars level f.2)) :
    Spells (.fields fs) (indentedFields level fs ++ (newLine outer ++ ['\x7d'])) := by
  induction fs with
  | nil => exact .fieldsNil (layout_newLine outer)
  | cons f fs ih =>
    obtain ⟨hf, hfs⟩ := List.forall_mem_cons.mp h
    simpa [indentedFields] using Spells.fieldsCons layout_nil (layout_newLine level) (spells_field hf) (ih hfs)

end Spells

/-- **Values are written as the grammar says**, at every level. -/
theorem Keyed.spells (h : Keyed P v) (level : Nat) : Spells (.value v) (indentedChars level v) := by
  induction h generalizing level with
  | null => exact .null
  | bool b =>
    cases b with
    | true => exact .boolTrue
    | false => exact .boolFalse
  | int n => exact .int (numbered_intDigits n)
  | str s => exact .str (spelled_escapeChars s.toList)
  | @arr vs _ ih =>
    cases vs with
    | nil => exact .arrNil layout_nil
    | cons v vs =>
      obtain ⟨hv, hvs⟩ := List.forall_mem_cons.mp ih
      have hitems := spells_items level fun w hw => hvs w hw (level + 1)
      simpa [indentedChars] using Spells.arrCons (layout_newLine (level + 1)) (hv (level + 1)) hitems
  | @obj fs _ _ ih =>
    cases fs with
    | nil => exact .objNil layout_nil
    | cons f fs =>
      obtain ⟨hf, hfs⟩ := List.forall_mem_cons.mp ih
      have hfields := spells_fields level fun g hg => hfs g hg (level + 1)
      simpa [indentedChars] using
        Spells.objCons (layout_newLine (level + 1)) (spells_field (hf (level + 1))) hfields

/-! ## Only ASCII characters -/

/-- Only ASCII characters. -/
def Ascii (cs : List Char) : Prop :=
  ∀ c ∈ cs, c.toNat < 128

section Ascii

variable {c : Char} {cs ds : List Char}

@[simp] theorem ascii_nil : Ascii [] := by
  simp [Ascii]

@[simp] theorem ascii_cons : Ascii (c :: cs) ↔ c.toNat < 128 ∧ Ascii cs :=
  List.forall_mem_cons

@[simp] theorem ascii_append : Ascii (cs ++ ds) ↔ Ascii cs ∧ Ascii ds :=
  List.forall_mem_append

end Ascii

@[simp] theorem ascii_newLine (level : Nat) : Ascii (newLine level) := by
  have hblanks : Ascii (List.replicate (2 * level) ' ') := by
    intro c hc
    rw [List.eq_of_mem_replicate hc]
    decide
  simp [newLine, hblanks]

theorem ascii_toDigits (n : Nat) : Ascii (Nat.toDigits 10 n) := by
  intro c hc
  have hdigit := Nat.isDigit_of_mem_toDigits (by omega) (by omega) hc
  have hle : c.toNat ≤ '9'.toNat := (Char.isDigit_iff_toNat.mp hdigit).2
  exact lt_of_le_of_lt hle (by decide)

theorem ascii_intDigits (n : Int) : Ascii (intDigits n) := by
  rw [intDigits]
  split <;> simp [ascii_toDigits]

theorem ascii_unitEscape (n : Nat) : Ascii (unitEscape n) := by
  have hdigit : ∀ m, (hexDigit (m % 16)).toNat < 128 := by
    intro m
    have hlt : m % 16 < 16 := Nat.mod_lt m (by omega)
    generalize m % 16 = d at hlt
    interval_cases d <;> decide
  simp [unitEscape, hdigit]

theorem ascii_escapeChar (c : Char) : Ascii (escapeChar c) := by
  have hletters : ∀ p ∈ letterEscapes, p.1.toNat < 128 := by decide
  obtain ⟨e, he, hc⟩ | ⟨-, hlt, hc⟩ | ⟨-, hc⟩ | ⟨-, hc⟩ := escapeChar_cases c <;> rw [hc]
  · simpa using hletters (e, c) he
  · exact ascii_cons.mpr ⟨by omega, ascii_nil⟩
  · exact ascii_unitEscape _
  · exact ascii_append.mpr ⟨ascii_unitEscape _, ascii_unitEscape _⟩

theorem ascii_escapeChars (cs : List Char) : Ascii (escapeChars cs) := by
  induction cs with
  | nil => exact ascii_nil
  | cons c cs ih => exact ascii_append.mpr ⟨ascii_escapeChar c, ih⟩

@[simp] theorem ascii_quoted (s : String) : Ascii (quoted s) := by
  simp [quoted, ascii_escapeChars]

theorem ascii_items {level : Nat} {vs : List Json} (h : ∀ v ∈ vs, Ascii (indentedChars level v)) :
    Ascii (indentedItems level vs) := by
  induction vs with
  | nil => exact ascii_nil
  | cons v vs ih =>
    obtain ⟨hv, hvs⟩ := List.forall_mem_cons.mp h
    simp [indentedItems, hv, ih hvs]

theorem ascii_fields {level : Nat} {fs : List (String × Json)} (h : ∀ f ∈ fs, Ascii (indentedChars level f.2)) :
    Ascii (indentedFields level fs) := by
  induction fs with
  | nil => exact ascii_nil
  | cons f fs ih =>
    obtain ⟨hf, hfs⟩ := List.forall_mem_cons.mp h
    simp [indentedFields, hf, ih hfs]

/-- **Values are written in ASCII**, at every level. -/
theorem Keyed.ascii (h : Keyed P v) (level : Nat) : Ascii (indentedChars level v) := by
  induction h generalizing level with
  | null => simp [indentedChars, scalarChars]
  | bool b => cases b <;> simp [indentedChars, scalarChars]
  | int n => exact ascii_intDigits n
  | str s => exact ascii_quoted s
  | @arr vs _ ih =>
    cases vs with
    | nil => simp [indentedChars]
    | cons v vs =>
      obtain ⟨hv, hvs⟩ := List.forall_mem_cons.mp ih
      simp [indentedChars, hv (level + 1), ascii_items fun w hw => hvs w hw (level + 1)]
  | @obj fs _ _ ih =>
    cases fs with
    | nil => simp [indentedChars]
    | cons f fs =>
      obtain ⟨hf, hfs⟩ := List.forall_mem_cons.mp ih
      simp [indentedChars, hf (level + 1), ascii_fields fun g hg => hfs g hg (level + 1)]

/-! ## The whole text -/

theorem toList_indented (v : Json) : v.indented.toList = indentedChars 0 v := by
  simp [indented]

/-- **A printed value is a JSON text.** -/
theorem Keyed.isText_indented (h : Keyed P v) : IsText v.indented v :=
  ⟨[], indentedChars 0 v, [], layout_nil, h.spells 0, layout_nil, by simp [toList_indented]⟩

theorem Keyed.ascii_indented (h : Keyed P v) : Ascii v.indented.toList := by
  rw [toList_indented]
  exact h.ascii 0

end CodeAtlas.Json
