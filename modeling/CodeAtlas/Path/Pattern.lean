import CodeAtlas.Path

/-!
# Path patterns

A pattern is a path whose components may contain stars, question marks and character sets. A relative pattern is
compared with the last components of a path, a pattern with a root with all of them.

## Main definitions

* `Glob`, `Glob.read`: the pieces of a component pattern.
* `Glob.fits`: whether a name matches a component pattern.
* `Path.matches?`: whether a path matches a pattern; a pattern without components has no answer.
-/

namespace CodeAtlas

namespace Glob

/-- A piece of a component pattern. -/
inductive Piece where
  /-- Any characters. -/
  | star
  /-- One character. -/
  | any
  /-- A character that is given. -/
  | exactly (c : Char)
  /-- A character in one of some ranges, or in none of them. -/
  | set (negated : Bool) (ranges : List (Char × Char))
  /-- Nothing matches. -/
  | never

/-- An element of a character set as it is written: a character, or the dash of a range. -/
inductive Mark where
  /-- A character. -/
  | char (c : Char)
  /-- The dash of a range. -/
  | dash
  deriving DecidableEq

/-- The chunks of the inside of a set between the dashes that make ranges, where the next dash counts only after
`skip` more characters, and `chunk` is the current chunk read backwards. -/
def chunksFrom (skip : Nat) (chunk : List Char) : List Char → List (List Char)
  | [] => [chunk.reverse]
  | c :: cs =>
    match skip with
    | n + 1 => chunksFrom n (c :: chunk) cs
    | 0 => if c = '-' then chunk.reverse :: chunksFrom 2 [] cs else chunksFrom 0 (c :: chunk) cs

/-- The chunks without an empty last one, whose dash counts as a character. -/
def closeChunks : List (List Char) → List (List Char)
  | [] => []
  | [chunk] => [chunk]
  | [chunk, []] => [chunk ++ ['-']]
  | chunk :: chunks => chunk :: closeChunks chunks

/-- The chunks without ranges that run backwards: both ends of such a range are dropped and its chunks are joined.
The last range is looked at first. -/
def dropEmptyRanges : List (List Char) → List (List Char)
  | [] => []
  | chunk :: chunks =>
    match dropEmptyRanges chunks with
    | [] => [chunk]
    | next :: rest =>
      match chunk.getLast?, next with
      | some low, high :: tail => if high < low then (chunk.dropLast ++ tail) :: rest else chunk :: next :: rest
      | _, _ => chunk :: next :: rest

/-- The marks of some chunks, with a dash between any two chunks. -/
def marks : List (List Char) → List Mark
  | [] => []
  | [chunk] => chunk.map .char
  | chunk :: chunks => chunk.map .char ++ .dash :: marks chunks

/-- The ranges of some marks. A dash that is not between two characters stands for itself. -/
def ranges : List Mark → List (Char × Char)
  | [] => []
  | .char low :: .dash :: .char high :: rest => (low, high) :: ranges rest
  | .char c :: rest => (c, c) :: ranges rest
  | .dash :: rest => ('-', '-') :: ranges rest

/-- The piece for the inside of a set. -/
def setPiece (inside : List Char) : Piece :=
  let skip := if inside.head? = some '!' then 2 else 1
  match marks (dropEmptyRanges (closeChunks (chunksFrom skip [] inside))) with
  | [] => .never
  | [.char '!'] => .any
  | .char '!' :: rest => .set true (ranges rest)
  | all => .set false (ranges all)

/-- The inside of a set and what follows it, if it is closed. A bracket right at the start, or right after an
exclamation mark, does not close it. -/
def insideOfSet (cs : List Char) : Option (List Char × List Char) :=
  let lead := if cs.head? = some '!' then 1 else 0
  let lead := if (cs.drop lead).head? = some ']' then lead + 1 else lead
  let body := (cs.drop lead).takeWhile (· != ']')
  match (cs.drop lead).drop body.length with
  | [] => none
  | _ :: rest => some (cs.take lead ++ body, rest)

/-- The pieces of at most `fuel` characters of a component pattern. -/
def readFrom : Nat → List Char → List Piece
  | 0, _ => []
  | _, [] => []
  | fuel + 1, c :: cs =>
    if c = '*' then .star :: readFrom fuel cs
    else if c = '?' then .any :: readFrom fuel cs
    else if c = '[' then
      match insideOfSet cs with
      | some (inside, rest) => setPiece inside :: readFrom fuel rest
      | none => .exactly '[' :: readFrom fuel cs
    else .exactly c :: readFrom fuel cs

/-- The pieces of a component pattern. -/
def read (pattern : String) : List Piece :=
  readFrom pattern.length pattern.toList

/-- Whether a piece that stands for one character accepts it. -/
def Piece.accepts (c : Char) : Piece → Bool
  | .star => false
  | .any => true
  | .exactly d => c == d
  | .set negated ranges => (ranges.any fun r => r.1 ≤ c && c ≤ r.2) != negated
  | .never => false

/-- Whether characters match pieces. -/
def matchPieces : List Piece → List Char → Bool
  | [], cs => cs.isEmpty
  | .star :: ps, [] => matchPieces ps []
  | .star :: ps, c :: cs => matchPieces ps (c :: cs) || matchPieces (.star :: ps) cs
  | _ :: _, [] => false
  | p :: ps, c :: cs => p.accepts c && matchPieces ps cs
termination_by ps cs => ps.length + cs.length

/-- Whether a name matches a component pattern. -/
def fits (pattern name : String) : Bool :=
  matchPieces (read pattern) name.toList

end Glob

namespace Path

/-- The components of a path, with its root as the first one. -/
def allParts (p : Path) : List String :=
  if p.root == "" then p.parts else p.root :: p.parts

/-- Whether a path matches a pattern. A pattern without components has no answer. -/
def matches? (pattern : String) (p : Path) : Option Bool :=
  let q := ofString pattern
  if q.allParts.isEmpty then none
  else if q.root != "" then
    some (q.root == p.root && q.parts.length == p.parts.length &&
      (p.parts.zip q.parts).all fun (part, pat) => Glob.fits pat part)
  else
    let parts := p.allParts
    some (q.parts.length ≤ parts.length &&
      ((parts.drop (parts.length - q.parts.length)).zip q.parts).all fun (part, pat) => Glob.fits pat part)

end Path

end CodeAtlas
