import CodeAtlas.Text.Ranges
import CodeAtlas.Text.Table.Lowercase
import CodeAtlas.Text.Table.Casing

/-!
# Lower case

The lower-case form of a text by the rules of Unicode. Most characters have a form of their own whatever
surrounds them. The capital sigma is the exception: at the end of a word it becomes the final sigma. The
dotted capital I becomes two characters.

## Main definitions

* `lowerChar`: the lower-case form of one character outside of any context.
* `lower`: the lower-case form of a text.
-/

namespace CodeAtlas.Text

/-- The shift that the runs of the lower-case table give to a code point. -/
def lowerShift (n : Nat) : Int :=
  match Table.lowercase.find? fun r => r.1 ≤ n && n ≤ r.2.1 && (n - r.1) % r.2.2.1 == 0 with
  | some r => r.2.2.2
  | none => 0

/-- The lower-case form of a character. ASCII letters come first, so that only characters beyond ASCII are looked
up. -/
def lowerChar (c : Char) : List Char :=
  if c.toNat < 128 then [c.toLower]
  else if c.toNat = 0x130 then ['i', Char.ofNat 0x307]
  else if c.toNat = 0x3a3 then [Char.ofNat 0x3c3]
  else [Char.ofNat (c.toNat + lowerShift c.toNat).toNat]

/-- Whether the nearest character of `cs` that is not skipped has case. -/
def meetsCased (cs : List Char) : Bool :=
  match cs.dropWhile fun c => inRanges Table.caseIgnorable c.toNat with
  | [] => false
  | c :: _ => inRanges Table.cased c.toNat

/-- The lower-case form of the characters, where `before` are the characters in front of them, nearest first. A
capital sigma is final if a cased character stands before it and none after it. -/
def lowerFrom (before : List Char) : List Char → List Char
  | [] => []
  | c :: cs =>
    let form :=
      if c.toNat = 0x3a3 && meetsCased before && !meetsCased cs then [Char.ofNat 0x3c2] else lowerChar c
    form ++ lowerFrom (c :: before) cs

/-- The lower-case form of a text. -/
def lower (s : String) : String :=
  String.ofList (lowerFrom [] s.toList)

@[simp] theorem lowerFrom_nil (before : List Char) : lowerFrom before [] = [] := rfl

end CodeAtlas.Text
