import CodeAtlas.Source.Expr

/-!
# Statements of Python source text

Definitions are kept in full. Of any other statement only the expressions and the statements inside it are
kept, because nothing else of it is ever looked at.

## Main definitions

* `FunctionHeader`, `ClassHeader`: what stands in front of the body of a definition.
* `Stmt`: statements.
-/

namespace CodeAtlas.Source

/-- A function definition without its body. -/
structure FunctionHeader where
  /-- The name. -/
  name : String
  /-- Whether it is asynchronous. -/
  isAsync : Bool
  /-- The parameters. -/
  params : Params Expr
  /-- The annotation of the result. -/
  result : Option Expr
  /-- The decorators. -/
  decorators : List Expr
  /-- The first line, without the decorators. -/
  line : Nat
  /-- The last line. -/
  lastLine : Nat

/-- A class definition without its body. -/
structure ClassHeader where
  /-- The name. -/
  name : String
  /-- The base classes. -/
  bases : List Expr
  /-- The keyword arguments. -/
  keywords : List Expr
  /-- The decorators. -/
  decorators : List Expr
  /-- The first line, without the decorators. -/
  line : Nat
  /-- The last line. -/
  lastLine : Nat

/-- A statement. -/
inductive Stmt where
  /-- An expression on its own. -/
  | expression (value : Expr)
  /-- A function definition. -/
  | function (header : FunctionHeader) (body : List Stmt)
  /-- A class definition. -/
  | classDef (header : ClassHeader) (body : List Stmt)
  /-- Any other statement: the expressions in it, and the statements inside it. -/
  | other (values : List Expr) (body : List Stmt)

end CodeAtlas.Source
