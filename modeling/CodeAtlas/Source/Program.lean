import CodeAtlas.Source.Grammar.Statement

/-!
# Reading a whole text

The stages of the grammar are put together, and a text is read as a list of statements.

## Main definitions

* `Grammar.stage`: the readers for texts that are nested at most so deep.
* `program`: the statements of a text.
-/

namespace CodeAtlas.Source

open Reader

/-- The readers of the next stage. The expression of a replacement field is read as if it stood in round brackets. -/
def Grammar.deeper (g : Grammar) : Grammar where
  expression := g.readExpression
  inversion := g.readInversion
  factor := g.readFactor
  embedded := fun cs => do
    let ts ← tokens ('(' :: cs ++ [')'])
    (g.starExpressions ⟨ts, 1⟩).map (·.1)
  pattern := g.readPattern
  statement := g.readStatement

/-- The readers for texts that are nested at most `n` deep. -/
def Grammar.stage : Nat → Grammar
  | 0 => Grammar.none
  | n + 1 => (Grammar.stage n).deeper

/-- The statements of a text, or nothing if it cannot be read. Every level of nesting takes at least one character,
so a multiple of the number of characters bounds the stage that is needed. -/
def program (text : List Char) : Option (List Stmt) := do
  let ts ← tokens text
  let g := Grammar.stage (2 * text.length + 8)
  let whole : Reader (List Stmt) := do
    match ← peek with
    | some .finish => return []
    | _ =>
      let body ← g.statements
      match ← peek with
      | some .finish => return body
      | _ => failure
  (whole ⟨ts, 1⟩).map (·.1)

end CodeAtlas.Source
