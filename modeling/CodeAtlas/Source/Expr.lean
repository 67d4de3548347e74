/-!
# Expressions of Python source text

The abstract form of an expression. The pieces that only occur inside certain expressions (keyword arguments,
the items of a dictionary, the clauses of a comprehension, the parts of a formatted text) are expressions of
their own kind, so that every child of an expression is again an expression.

Texts are kept as lists of code points, because escapes can name code points that are not characters.

## Main definitions

* `Constant`, `Expr`: constants and expressions.
* `Params`: the parameters of a function, over any type of annotations and defaults.
-/

namespace CodeAtlas.Source

/-- A constant. -/
inductive Constant where
  /-- The absent value. -/
  | absent
  /-- A truth value. -/
  | truth (value : Bool)
  /-- The ellipsis. -/
  | ellipsis
  /-- A whole number. -/
  | whole (value : Nat)
  /-- A real number. -/
  | real (value : Float)
  /-- An imaginary number, by its imaginary part. -/
  | imaginary (value : Float)
  /-- A text, and whether it is marked with a lower-case `u`. -/
  | text (marked : Bool) (value : List Nat)
  /-- A sequence of bytes. -/
  | bytes (value : List Nat)

/-- A prefix operator. -/
inductive UnaryOp where
  /-- Logical negation. -/
  | not
  /-- Bitwise complement. -/
  | complement
  /-- Plus. -/
  | plus
  /-- Minus. -/
  | minus
  deriving DecidableEq

/-- A binary operator on values. -/
inductive BinaryOp where
  /-- Bitwise or. -/
  | bitOr
  /-- Bitwise exclusive or. -/
  | bitXor
  /-- Bitwise and. -/
  | bitAnd
  /-- Left shift. -/
  | shiftLeft
  /-- Right shift. -/
  | shiftRight
  /-- Sum. -/
  | add
  /-- Difference. -/
  | sub
  /-- Product. -/
  | mul
  /-- Matrix product. -/
  | matMul
  /-- Quotient. -/
  | div
  /-- Quotient rounded down. -/
  | floorDiv
  /-- Remainder. -/
  | mod
  /-- Power. -/
  | pow
  deriving DecidableEq

/-- A connective. -/
inductive BoolOp where
  /-- Both. -/
  | and
  /-- Either. -/
  | or
  deriving DecidableEq

/-- What kind of display a comprehension makes. -/
inductive Display where
  /-- A list. -/
  | list
  /-- A set. -/
  | set
  /-- A generator. -/
  | generator
  deriving DecidableEq

/-- An expression, or one of the pieces that expressions are made of. -/
inductive Expr where
  /-- A constant. -/
  | const (value : Constant)
  /-- A name. -/
  | name (id : String)
  /-- An attribute of a value. -/
  | attribute (value : Expr) (attr : String)
  /-- An element or part of a value. -/
  | subscript (value : Expr) (index : Expr)
  /-- A part of a sequence. -/
  | slice (lower upper step : Option Expr)
  /-- A call, with its positional arguments and then its keyword arguments. -/
  | call (function : Expr) (args : List Expr) (keywords : List Expr)
  /-- A keyword argument, or an unpacked mapping if it has no name. -/
  | keyword (name : Option String) (value : Expr)
  /-- An unpacked sequence. -/
  | starred (value : Expr)
  /-- A prefix operator applied to an operand. -/
  | unary (op : UnaryOp) (operand : Expr)
  /-- A binary operator applied to two operands. -/
  | binary (op : BinaryOp) (left right : Expr)
  /-- A chain of comparisons: a first operand, the relations, and an operand for each of them. -/
  | compare (left : Expr) (relations : List String) (operands : List Expr)
  /-- Operands joined by one connective. -/
  | connect (op : BoolOp) (operands : List Expr)
  /-- A choice. -/
  | choice (body test otherwise : Expr)
  /-- An anonymous function: the names of its parameters by kind, the defaults of the last positional ones, the
  optional defaults of the keyword ones, and its body. -/
  | lambda (posOnly regular : List String) (variadic : Option String) (keyOnly : List String)
      (keyVariadic : Option String) (defaults : List Expr) (keyDefaults : List (Option Expr)) (body : Expr)
  /-- A tuple. -/
  | tuple (items : List Expr)
  /-- A list. -/
  | list (items : List Expr)
  /-- A set. -/
  | set (items : List Expr)
  /-- A dictionary of pairs and unpacked mappings. -/
  | dict (items : List Expr)
  /-- A pair of a dictionary. -/
  | pair (key value : Expr)
  /-- A mapping unpacked into a dictionary. -/
  | unpacked (value : Expr)
  /-- A list, set or generator made by clauses. -/
  | comprehension (display : Display) (item : Expr) (clauses : List Expr)
  /-- A dictionary made by clauses. -/
  | dictComprehension (key value : Expr) (clauses : List Expr)
  /-- A clause of a comprehension: where its values come from and which are kept. -/
  | clause (isAsync : Bool) (target source : Expr) (conditions : List Expr)
  /-- A value handed out by a generator. -/
  | yield (value : Option Expr)
  /-- All values of another generator. -/
  | yieldFrom (value : Expr)
  /-- An awaited value. -/
  | await (value : Expr)
  /-- A value that gets a name. -/
  | named (target : String) (value : Expr)
  /-- A text with replacement fields. -/
  | formatted (parts : List Expr)
  /-- A literal part of a formatted text. -/
  | formatText (value : List Nat)
  /-- A replacement field: its value, its conversion, and its format. -/
  | formatField (value : Expr) (conversion : Option Char) (format : Option (List Expr))

/-- A parameter with its annotation. -/
structure Param (ε : Type) where
  /-- The name. -/
  name : String
  /-- The annotation. -/
  ascription : Option ε

/-- The parameters of a function. The positional defaults belong to the last positional parameters, counted over
the positional-only and the regular ones together; every keyword-only parameter has its own optional
default. -/
structure Params (ε : Type) where
  /-- The positional-only parameters. -/
  posOnly : List (Param ε)
  /-- The parameters that can be given by position and by name. -/
  regular : List (Param ε)
  /-- The defaults of the last of these. -/
  defaults : List ε
  /-- The parameter that takes the remaining positional arguments. -/
  variadic : Option (Param ε)
  /-- The keyword-only parameters. -/
  keyOnly : List (Param ε)
  /-- Their defaults. -/
  keyDefaults : List (Option ε)
  /-- The parameter that takes the remaining keyword arguments. -/
  keyVariadic : Option (Param ε)

end CodeAtlas.Source
