import CodeAtlas.Text.Table.CombiningClass
import CodeAtlas.Text.Table.Composition
import CodeAtlas.Text.Table.Decomposition

/-!
# Normal form of names

Names that differ only in how their characters are encoded are the same name. The normal form takes every character
apart, puts the marks after a character into the order of their classes, and joins what can be written as one
character.

## Main definitions

* `decompose`, `reorder`, `compose`: the three steps, on code points.
* `normalName`: the normal form of a name.

## Main results

* `normalName_of_ascii`: a name of ASCII characters is in normal form.
-/

namespace CodeAtlas.Text

/-! ## Hangul syllables -/

/-- The first syllable, leading consonant, vowel, and the place before the first trailing consonant. -/
def syllableBase : Nat := 0xac00

/-- The first leading consonant. -/
def leadBase : Nat := 0x1100

/-- The first vowel. -/
def vowelBase : Nat := 0x1161

/-- The place before the first trailing consonant. -/
def tailBase : Nat := 0x11a7

/-- The letters of a syllable; none if the character is not one. -/
def syllableLetters (n : Nat) : Option (List Nat) :=
  if syllableBase ≤ n && n < syllableBase + 19 * 21 * 28 then
    let i := n - syllableBase
    let letters := [leadBase + i / (21 * 28), vowelBase + i % (21 * 28) / 28]
    some (if i % 28 = 0 then letters else letters ++ [tailBase + i % 28])
  else none

/-- The syllable of a leading consonant and a vowel, or of an open syllable and a trailing consonant. -/
def joinLetters (a b : Nat) : Option Nat :=
  if leadBase ≤ a && a < leadBase + 19 && vowelBase ≤ b && b < vowelBase + 21 then
    some (syllableBase + ((a - leadBase) * 21 + (b - vowelBase)) * 28)
  else if syllableBase ≤ a && a < syllableBase + 19 * 21 * 28 && (a - syllableBase) % 28 = 0 &&
      tailBase < b && b < tailBase + 28 then
    some (a + (b - tailBase))
  else none

/-! ## The three steps -/

/-- The characters that a character is made of, by a table of rows `first count target …`. -/
def rowTargets (n : Nat) : List (List Nat) → Option (List Nat)
  | [] => none
  | (first :: count :: target :: more) :: rows =>
    if first ≤ n && n < first + count then some ((target + (n - first)) :: more) else rowTargets n rows
  | _ :: rows => rowTargets n rows

/-- The characters that a character is made of. -/
def decompose (n : Nat) : List Nat :=
  (syllableLetters n <|> rowTargets n Table.decompositions).getD [n]

/-- The combining class of a character; zero for one that starts anew. -/
def combiningClass (n : Nat) : Nat :=
  ((Table.combiningClasses.find? fun
    | first :: count :: _ => decide (first ≤ n) && decide (n < first + count)
    | _ => false).bind (·[2]?)).getD 0

/-- Puts a character in front of characters that are in order: a mark goes behind those of a smaller class. -/
def insertMark (n : Nat) : List Nat → List Nat
  | [] => [n]
  | m :: ms =>
    if combiningClass m ≠ 0 ∧ combiningClass m < combiningClass n then m :: insertMark n ms else n :: m :: ms

/-- The characters with the marks after each one ordered by class; marks of one class keep their order. -/
def reorder : List Nat → List Nat
  | [] => []
  | n :: ns => insertMark n (reorder ns)

/-- The one character that two characters are written as. -/
def joinPair (a b : Nat) : Option Nat :=
  joinLetters a b <|>
    ((Table.compositions.find? fun row => row.take 2 == [a, b]).bind (·[2]?))

/-- What has been composed: the characters before the last one that starts anew, in reverse, that one, and the marks
that stay after it, in reverse. -/
structure Composing where
  /-- The finished characters, the last one first. -/
  before : List Nat := []
  /-- The character that later ones may join. -/
  starter : Option Nat := none
  /-- The marks after it that did not join, the last one first. -/
  marks : List Nat := []

/-- All characters, the last one first. -/
def Composing.all (s : Composing) : List Nat :=
  s.marks ++ s.starter.toList ++ s.before

/-- Adds a character. It joins the last one that starts anew if no mark of its own class or a higher one stands
between them. -/
def Composing.push (s : Composing) (n : Nat) : Composing :=
  let isFree := match s.marks with
    | [] => true
    | m :: _ => decide (combiningClass m < combiningClass n)
  match if isFree then s.starter.bind (joinPair · n) else none with
  | some joined => { s with starter := some joined }
  | none => if combiningClass n = 0 then ⟨s.all, some n, []⟩ else { s with marks := n :: s.marks }

/-- The characters with all that can be joined written as one. -/
def compose (ns : List Nat) : List Nat :=
  (ns.foldl Composing.push {}).all.reverse

/-! ## Names -/

/-- The normal form of a name. -/
def normalName (name : String) : String :=
  if name.toList.all fun c => decide (c.toNat < 128) then name
  else String.ofList ((compose (reorder (name.toList.flatMap fun c => decompose c.toNat))).map Char.ofNat)

theorem normalName_of_ascii {name : String} (h : ∀ c ∈ name.toList, c.toNat < 128) : normalName name = name := by
  simp only [normalName, List.all_eq_true, decide_eq_true_eq]
  exact if_pos h

end CodeAtlas.Text
