import CodeAtlas.Source.Expr
import CodeAtlas.Source.Reader
import CodeAtlas.Source.Stmt

/-!
# The recursive readers

Expressions, patterns and statements contain each other. Every reader of the grammar takes the readers for what
can stand inside it from a record, and so none of them is recursive. The record itself is made in stages: the
readers of stage `n + 1` use those of stage `n`.

## Main definitions

* `Grammar`: the readers for what can stand inside something else.
* `Grammar.none`: the stage at which nothing can be read.
* targets: which expressions can be assigned to or deleted.
-/

namespace CodeAtlas.Source

/-- The readers for what can stand inside something else. -/
structure Grammar where
  /-- An expression that is not a bare sequence of items. -/
  expression : Reader Expr
  /-- An operand of a connective. -/
  inversion : Reader Expr
  /-- An operand of a product. -/
  factor : Reader Expr
  /-- The expression of a replacement field, given as characters. -/
  embedded : List Char → Option Expr
  /-- A pattern, by the expressions in it. -/
  pattern : Reader (List Expr)
  /-- One statement, or a line of several. -/
  statement : Reader (List Stmt)

/-- The stage at which nothing can be read. -/
def Grammar.none : Grammar where
  expression := failure
  inversion := failure
  factor := failure
  embedded := fun _ => Option.none
  pattern := failure
  statement := failure

/-! ## Targets -/

/-- Whether an expression is a name, an attribute or an element. -/
def Expr.isSingleTarget : Expr → Bool
  | .name _ | .attribute .. | .subscript .. => true
  | _ => false

mutual

/-- Whether an expression can be assigned to, apart from a star in front of it. -/
def Expr.isTarget : Expr → Bool
  | .name _ | .attribute .. | .subscript .. => true
  | .tuple items => areTargets items
  | .list items => areTargets items
  | _ => false

/-- Whether all items can be assigned to. Each may have a star. -/
def areTargets : List Expr → Bool
  | [] => true
  | .starred value :: es => value.isTarget && areTargets es
  | e :: es => e.isTarget && areTargets es

end

/-- Whether an expression can be assigned to, perhaps with a star in front of it. -/
def Expr.isStarTarget : Expr → Bool
  | .starred value => value.isTarget
  | e => e.isTarget

mutual

/-- Whether an expression can be deleted. -/
def Expr.isDeletable : Expr → Bool
  | .name _ | .attribute .. | .subscript .. => true
  | .tuple items => areDeletable items
  | .list items => areDeletable items
  | _ => false

/-- Whether all items can be deleted. -/
def areDeletable : List Expr → Bool
  | [] => true
  | e :: es => e.isDeletable && areDeletable es

end

end CodeAtlas.Source
