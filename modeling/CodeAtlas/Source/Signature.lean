import CodeAtlas.Source.Printer
import CodeAtlas.Source.Stmt
import CodeAtlas.Text.Cut

/-!
# Signatures of functions and classes

A signature shows the parameters in the order in which they are written: positional-only parameters and a
slash, regular parameters, the variadic parameter or a bare star, keyword-only parameters, and the variadic
keyword parameter.

## Main definitions

* `Params.positionalDefault`: the default of a positional parameter.
* `Params.pieces`: the pieces of a parameter list.
* `FunctionHeader.signature`, `ClassHeader.signature`: the texts.
-/

namespace CodeAtlas.Source

variable {ε : Type}

/-- A piece of a parameter list. -/
inductive ParamItem (ε : Type) where
  /-- A parameter with its optional default. -/
  | plain (param : Param ε) (default : Option ε)
  /-- The end of the positional-only parameters. -/
  | slash
  /-- The start of the keyword-only parameters. -/
  | star
  /-- The parameter for the remaining positional arguments. -/
  | variadic (param : Param ε)
  /-- The parameter for the remaining keyword arguments. -/
  | keyVariadic (param : Param ε)

/-- The default of the positional parameter with the given index: the defaults belong to the last ones. -/
def Params.positionalDefault (p : Params ε) (index : Nat) : Option ε :=
  let first : Int := (p.posOnly.length + p.regular.length : Nat) - (p.defaults.length : Nat)
  let offset : Int := index - first
  if 0 ≤ offset then p.defaults[offset.toNat]? else none

/-- The default of the keyword-only parameter with the given index. -/
def Params.keyDefault (p : Params ε) (index : Nat) : Option ε :=
  (p.keyDefaults[index]?).join

/-- The pieces of a parameter list, in order. -/
def Params.pieces (p : Params ε) : List (ParamItem ε) :=
  let posOnly := p.posOnly.mapIdx fun i q => .plain q (p.positionalDefault i)
  let slash := if p.posOnly.isEmpty then [] else [.slash]
  let regular := p.regular.mapIdx fun i q => .plain q (p.positionalDefault (p.posOnly.length + i))
  let star := match p.variadic with
    | some q => [.variadic q]
    | none => if p.keyOnly.isEmpty then [] else [.star]
  let keyOnly := p.keyOnly.mapIdx fun i q => .plain q (p.keyDefault i)
  let keyVariadic := match p.keyVariadic with
    | some q => [.keyVariadic q]
    | none => []
  posOnly ++ slash ++ regular ++ star ++ keyOnly ++ keyVariadic

/-- A parameter with its annotation. -/
def Param.text (render : ε → String) (p : Param ε) : String :=
  match p.ascription with
  | some e => p.name ++ ": " ++ render e
  | none => p.name

/-- The text of a piece of a parameter list. -/
def ParamItem.text (render : ε → String) : ParamItem ε → String
  | .plain p default =>
    match default with
    | some e => p.text render ++ "=" ++ render e
    | none => p.text render
  | .slash => "/"
  | .star => "*"
  | .variadic p => "*" ++ p.text render
  | .keyVariadic p => "**" ++ p.text render

/-- The signature of a function. -/
def FunctionHeader.signature (h : FunctionHeader) : String :=
  let params := Text.joinWith ", " (h.params.pieces.map (·.text Expr.text))
  let result := match h.result with
    | some e => " -> " ++ e.text
    | none => ""
  (if h.isAsync then "async def " else "def ") ++ h.name ++ "(" ++ params ++ ")" ++ result

/-- The base classes of a class, as texts. -/
def ClassHeader.baseTexts (h : ClassHeader) : List String :=
  h.bases.map Expr.text

/-- The signature of a class. -/
def ClassHeader.signature (h : ClassHeader) : String :=
  if h.bases.isEmpty then "class " ++ h.name
  else "class " ++ h.name ++ "(" ++ Text.joinWith ", " h.baseTexts ++ ")"

end CodeAtlas.Source
