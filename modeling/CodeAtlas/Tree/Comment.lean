import CodeAtlas.Text.Blank
import CodeAtlas.Text.Cut
import CodeAtlas.Tree.Basic

/-!
# Documentation comments

The documentation of a declaration is taken from the comments right before it. The styles differ in which comments
count, how their marks are removed, and whether one comment or a run of comments is read. The nodes before a
declaration are given with the nearest one first.

## Main definitions

* `Comment.tagged`: the lines of a comment block without tag lines.
* `Comment.starred`: the lines of a comment block without leading stars.
* `Comment.run`: the comments in front of a declaration, joined.
* `Comment.adjacentBlock`, `Comment.javaBlock`, `Comment.phpBlock`, `Comment.goRun`, `Comment.rustRun`,
  `Comment.cRun`, `Comment.xmlRun`, `Comment.hashRun`: the styles.
-/

namespace CodeAtlas.Comment

open Text

/-- A text without its first character. -/
def dropFirst (s : String) : String :=
  trim 1 0 s

/-- Whether a text ends with `tail`. -/
def endsWith (tail s : String) : Bool :=
  tail.toList.isSuffixOf s.toList

/-- A text without the stars at its start. -/
def dropStars (s : String) : String :=
  String.ofList (s.toList.dropWhile (· == '*'))

/-- A line without blanks and without one leading star. -/
def plainLine (line : String) : String :=
  let stripped := strip line
  if startsWith "*" stripped then strip (dropFirst stripped) else stripped

/-- The lines inside a `/** */` block. -/
def blockLines (comment : String) : List String :=
  (cutAt '\n' (strip (trim 3 2 comment))).map plainLine

/-- The lines of a block that are neither empty nor tags, if there are any. -/
def tagged (comment : String) : Option String :=
  let kept := (blockLines comment).filter fun line => !line.isEmpty && !startsWith "@" line
  if kept.isEmpty then none else some (joinWith " " kept)

/-- The lines of a block that are not tags, with empty lines kept as blanks, if any text remains. -/
def taggedLoose (comment : String) : Option String :=
  let text := strip (joinWith " " ((blockLines comment).filter fun line => !startsWith "@" line))
  if text.isEmpty then none else some text

/-- The lines of a text without blanks and leading stars, on one line. -/
def starred (text : String) : String :=
  joinWith " " ((cutAt '\n' text).map fun line => strip (dropStars (strip line)))

/-- The items that a function accepts, up to the first one that it refuses. -/
def takeMapped {α β : Type} (f : α → Option β) : List α → List β
  | [] => []
  | a :: as =>
    match f a with
    | some b => b :: takeMapped f as
    | none => []

/-- The comments in front of a declaration, in reading order and joined by blanks. Nodes of other kinds end the run,
and so does a comment that `read` refuses; a comment that it reads as nothing is left out. -/
def run (kinds : List String) (read : String → Option (Option String)) (before : List Tree) : Option String :=
  let nearest := takeMapped (fun t => if kinds.contains t.kind then read t.text else none) before
  let texts := (nearest.filterMap id).reverse
  if texts.isEmpty then none else some (joinWith " " texts)

/-- The block right before a declaration. -/
def adjacentBlock (before : List Tree) : Option String :=
  match before with
  | t :: _ => if t.kind == "comment" && startsWith "/**" t.text then tagged t.text else none
  | [] => none

/-- The nearest block among the comments before a declaration. -/
def javaBlock : List Tree → Option String
  | [] => none
  | t :: before =>
    if t.kind == "comment" || t.kind == "block_comment" then
      if startsWith "/**" t.text then tagged t.text else javaBlock before
    else if t.kind == "line_comment" then javaBlock before
    else none

/-- The nearest block among the comments before a declaration; its empty lines are kept as blanks. -/
def phpBlock : List Tree → Option String
  | [] => none
  | t :: before =>
    if t.kind == "comment" then
      if startsWith "/**" t.text then taggedLoose t.text else phpBlock before
    else none

/-- A line comment or a block, without its marks. -/
def goText (comment : String) : Option String :=
  if startsWith "//" comment then some (strip (trim 2 0 comment))
  else if startsWith "/*" comment then some (strip (trim 2 2 comment))
  else none

/-- The run of comments before a declaration. -/
def goRun (before : List Tree) : Option String :=
  run ["comment"] (fun comment => some (goText comment)) before

/-- A documentation comment without its marks; any other comment is refused. -/
def rustText (comment : String) : Option (Option String) :=
  if startsWith "///" comment || startsWith "//!" comment then some (some (strip (trim 3 0 comment)))
  else if startsWith "/**" comment then some (some (starred (strip (trim 3 2 comment))))
  else none

/-- The run of documentation comments before a declaration. -/
def rustRun (before : List Tree) : Option String :=
  run ["line_comment", "block_comment"] rustText before

/-- A text without one mark at its start and without blanks. -/
def dropMark (mark : Char) (s : String) : String :=
  if s.toList.head? == some mark then strip (dropFirst s) else s

/-- A line comment or a block, without its marks and with an additional documentation mark removed. -/
def cText (comment : String) : Option String :=
  if startsWith "//" comment then some (dropMark '/' (strip (trim 2 0 comment)))
  else if startsWith "/*" comment then some (starred (dropMark '*' (strip (trim 2 2 comment))))
  else none

/-- The run of comments before a declaration, without blanks at its ends. -/
def cRun (before : List Tree) : Option String :=
  (run ["comment"] (fun comment => some (cText comment)) before).map strip

/-- The text of a documentation line without the summary tags; lines that are other tags say nothing. -/
def xmlText (comment : String) : Option String :=
  let stripped := strip comment
  if startsWith "///" stripped then
    let line := strip (trim 3 0 stripped)
    let opened := if startsWith "<summary>" line then trim 9 0 line else line
    let closed := if endsWith "</summary>" opened then trim 0 10 opened else opened
    if closed.isEmpty || startsWith "<" closed || endsWith ">" closed then none else some (strip closed)
  else none

/-- The run of comments before a declaration, of which only documentation lines are read. -/
def xmlRun (before : List Tree) : Option String :=
  (run ["comment"] (fun comment => some (xmlText comment)) before).map strip

/-- A comment that starts with a hash, without it. -/
def hashText (comment : String) : Option String :=
  if startsWith "#" comment then some (strip (dropFirst comment)) else none

/-- The run of comments before a declaration, of which only those with a hash are read. -/
def hashRun (before : List Tree) : Option String :=
  run ["comment"] (fun comment => some (hashText comment)) before

end CodeAtlas.Comment
