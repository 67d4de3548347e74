import CodeAtlas.Text.Cut

/-!
# Paths

A path is a root and a list of components. Empty components and single dots are dropped when a path is read;
double dots are kept.

## Main definitions

* `Path`: paths.
* `Path.ofString`, `Path.toString`: reading and writing.
* `Path.name`, `Path.suffix`, `Path.parent`: the parts of a path.
-/

namespace CodeAtlas

/-- A path. -/
structure Path where
  /-- The root: empty for a relative path, one slash, or exactly two slashes. -/
  root : String
  /-- The components. -/
  parts : List String
  deriving DecidableEq, Repr

namespace Path

/-- The components of a text, without empty ones and single dots. -/
def components (s : String) : List String :=
  (Text.cutAt '/' s).filter fun part => part != "" && part != "."

/-- A path from its text. Two slashes at the start are a root of their own; any other number counts as one. -/
def ofString (s : String) : Path :=
  let slashes := (s.toList.takeWhile (· == '/')).length
  let root := if slashes = 0 then "" else if slashes = 2 then "//" else "/"
  ⟨root, components s⟩

/-- The text of a path. The empty relative path is a dot. -/
def toString (p : Path) : String :=
  if p.root == "" && p.parts.isEmpty then "." else p.root ++ Text.joinWith "/" p.parts

/-- A relative path made of components. -/
def relative (parts : List String) : Path := ⟨"", parts⟩

/-- The last component, or the empty text. -/
def name (p : Path) : String :=
  p.parts.getLastD ""

/-- The path without its last component. -/
def parent (p : Path) : Path :=
  { p with parts := p.parts.dropLast }

/-- The path followed by another one, which replaces it if it has a root. -/
def append (p q : Path) : Path :=
  if q.root == "" then { p with parts := p.parts ++ q.parts } else q

/-- The part of a file name from its last dot on. A dot at either end of the name does not count. -/
def nameSuffix (name : String) : String :=
  let back := name.toList.reverse
  let extension := back.takeWhile (· != '.')
  let stem := (back.drop extension.length).drop 1
  if extension.length < back.length && !extension.isEmpty && !stem.isEmpty then
    String.ofList ('.' :: extension.reverse)
  else ""

/-- The suffix of the last component. -/
def suffix (p : Path) : String :=
  nameSuffix p.name

end Path

end CodeAtlas
