/-!
# Similar texts

How similar two texts are is measured by what they share: the longest block that occurs in both, and then, in the
same way, what they share before it and after it.

## Main definitions

* `longestBlock`: the longest common block of two texts.
* `sharedLength`: how many characters two texts share.
* `isSimilar`: whether two texts share enough.
-/

namespace CodeAtlas.Text

/-- How many characters two texts have in common at the start. -/
def commonStart : List Char → List Char → Nat
  | a :: as, b :: bs => if a = b then commonStart as bs + 1 else 0
  | _, _ => 0

/-- A block that occurs in two texts: where it starts in each, and its length. -/
structure Block where
  /-- Where it starts in the first text. -/
  first : Nat
  /-- Where it starts in the second text. -/
  second : Nat
  /-- Its length. -/
  length : Nat

/-- The longest common block of two texts; among equals the one that starts first in the first text, then in the
second one. -/
def longestBlock (a b : List Char) : Block :=
  (List.range a.length).foldl (fun best i =>
    (List.range b.length).foldl (fun best j =>
      let n := commonStart (a.drop i) (b.drop j)
      if best.length < n then ⟨i, j, n⟩ else best) best) ⟨0, 0, 0⟩

/-- How many characters two texts share, where at most `depth` blocks lie in each other. -/
def sharedTo : Nat → List Char → List Char → Nat
  | 0, _, _ => 0
  | depth + 1, a, b =>
    let m := longestBlock a b
    if m.length = 0 then 0
    else
      m.length + sharedTo depth (a.take m.first) (b.take m.second) +
        sharedTo depth (a.drop (m.first + m.length)) (b.drop (m.second + m.length))

/-- How many characters two texts share. -/
def sharedLength (a b : String) : Nat :=
  sharedTo (a.length + 1) a.toList b.toList

/-- Whether the characters that two texts share are at least six tenths of all. -/
def isSimilar (a b : String) : Bool :=
  3 * (a.length + b.length) ≤ 10 * sharedLength a b

end CodeAtlas.Text
