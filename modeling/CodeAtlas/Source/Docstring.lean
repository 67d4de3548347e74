import CodeAtlas.Source.Stmt
import CodeAtlas.Text.Blank
import CodeAtlas.Text.Cut

/-!
# Documentation texts

The documentation of a definition is the text that stands alone at the start of its body. Tabs are expanded,
the margin that all lines after the first share is removed, and so are blank lines at both ends.

## Main definitions

* `expandTabs`: tabs replaced by blanks up to the next eighth column.
* `cleanDoc`: a documentation text without its margin.
* `docstring`: the documentation of a body.
-/

namespace CodeAtlas.Source

/-- The characters with tabs replaced by blanks, where the first one stands in column `column`. -/
def expandTabsFrom (column : Nat) : List Char → List Char
  | [] => []
  | c :: cs =>
    if c = '\t' then
      let width := 8 - column % 8
      List.replicate width ' ' ++ expandTabsFrom (column + width) cs
    else if c = '\n' || c = '\r' then c :: expandTabsFrom 0 cs
    else c :: expandTabsFrom (column + 1) cs

/-- The characters with tabs replaced by blanks up to the next eighth column. -/
def expandTabs (cs : List Char) : List Char :=
  expandTabsFrom 0 cs

/-- The number of blanks in front of a line, unless the line is blank altogether. -/
def lineMargin (line : List Char) : Option Nat :=
  let content := Text.stripStartChars line
  if content.isEmpty then none else some (line.length - content.length)

/-- The least margin of some lines, if any of them is not blank. -/
def leastMargin (lines : List (List Char)) : Option Nat :=
  (lines.filterMap lineMargin).min?

/-- A documentation text without its margin and without blank lines at its ends. -/
def cleanDoc (cs : List Char) : List Char :=
  match List.splitOn '\n' (expandTabs cs) with
  | [] => []
  | first :: rest =>
    let shifted := match leastMargin rest with
      | some margin => rest.map (·.drop margin)
      | none => rest
    let lines := Text.stripStartChars first :: shifted
    let trimmed := (lines.reverse.dropWhile List.isEmpty).reverse.dropWhile List.isEmpty
    List.intercalate ['\n'] trimmed

/-- The documentation of a body. -/
def docstring (body : List Stmt) : Option String :=
  match body with
  | .expression (.const (.text _ value)) :: _ => some (String.ofList (cleanDoc (value.map Char.ofNat)))
  | _ => none

end CodeAtlas.Source
