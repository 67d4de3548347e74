import CodeAtlas.Source.Grammar.Basic
import CodeAtlas.Source.Literal

/-!
# The grammar of expressions

One reader per level of the grammar, from connectives down to atoms.

## Main definitions

* `Grammar.readExpression`: choices, anonymous functions and everything below.
* `Grammar.namedExpression`, `Grammar.starExpressions`: the forms that can stand in places of their own.
* `Grammar.starTargets`: the target of a loop.
* `Grammar.arguments`: the arguments of a call or of a class definition.
* `Grammar.parameters`: the parameters of a function.
-/

namespace CodeAtlas.Source

open Reader

namespace Grammar

/-- Whether a token is one of the given operators. -/
def isOneOf (ops : List String) : Option Kind → Bool
  | some (.op o) => ops.contains o
  | _ => false

/-! ## Forms built from expressions -/

/-- A name and `:=` in front of an expression, or just an expression. -/
def namedExpression (g : Grammar) : Reader Expr := do
  match ← peek, ← peekSecond with
  | some (.word _), some (.op ":=") =>
    let name ← identifier
    discard next
    return .named name (← g.expression)
  | _, _ =>
    let e ← g.expression
    guard !(← atOp ":=")
    return e

/-- Whether a name and `:=` come next. -/
def atNamed : Reader Bool := do
  match ← peek, ← peekSecond with
  | some (.word _), some (.op ":=") => return true
  | _, _ => return false

/-- Operands joined from the left by binary operators. -/
def leftChain (operand : Reader Expr) (ops : List (String × BinaryOp)) : Reader Expr := do
  let first ← operand
  let step : Reader (Option (BinaryOp × Expr)) := do
    match ← peek with
    | some (.op o) =>
      match ops.find? (·.1 == o) with
      | some (_, op) =>
        discard next
        return some (op, ← operand)
      | Option.none => return Option.none
    | _ => return Option.none
  let rest ← collect step
  return rest.foldl (fun e (op, right) => .binary op e right) first

/-- Products. -/
def term (g : Grammar) : Reader Expr :=
  leftChain g.factor [("*", .mul), ("/", .div), ("//", .floorDiv), ("%", .mod), ("@", .matMul)]

/-- Sums. -/
def sum (g : Grammar) : Reader Expr :=
  leftChain g.term [("+", .add), ("-", .sub)]

/-- Shifts. -/
def shift (g : Grammar) : Reader Expr :=
  leftChain g.sum [("<<", .shiftLeft), (">>", .shiftRight)]

/-- Bitwise operators. -/
def bitwiseOr (g : Grammar) : Reader Expr :=
  leftChain (leftChain (leftChain g.shift [("&", .bitAnd)]) [("^", .bitXor)]) [("|", .bitOr)]

/-- An operand of a comparison or a starred one. -/
def starExpression (g : Grammar) : Reader Expr := do
  if ← skipOp "*" then return .starred (← g.bitwiseOr) else g.expression

/-- An item of a display. -/
def starNamedExpression (g : Grammar) : Reader Expr := do
  if ← skipOp "*" then return .starred (← g.bitwiseOr) else g.namedExpression

/-- Whether a token can follow a sequence of items that has no brackets of its own. -/
def endsItems : Option Kind → Bool
  | some (.op o) =>
    [")", "]", "\x7d", "=", ":", ";", "+=", "-=", "*=", "/=", "//=", "%=", "@=", "&=", "|=", "^=", ">>=", "<<=",
      "**="].contains o
  | some .newline => true
  | _ => false

/-- One item, or a tuple of items without brackets. -/
def starExpressions (g : Grammar) : Reader Expr := do
  let (items, trailing) ← itemsUntil endsItems g.starExpression
  match items with
  | [item] => return if trailing then .tuple items else item
  | _ => return .tuple items

/-- A value handed out by a generator. -/
def yieldExpression (g : Grammar) : Reader Expr := do
  reserved "yield"
  if ← skipWord "from" then return .yieldFrom (← g.expression)
  else if endsItems (← peek) then return .yield Option.none
  else return .yield (some (← g.starExpressions))

/-! ## Comparisons and connectives -/

/-- The relation that comes next. -/
def relation : Reader (Option String) := do
  match ← peek with
  | some (.op o) =>
    if ["==", "!=", "<=", "<", ">=", ">"].contains o then
      discard next
      return some o
    else return Option.none
  | some (.word "in") =>
    discard next
    return some "in"
  | some (.word "is") =>
    discard next
    if ← skipWord "not" then return some "is not" else return some "is"
  | some (.word "not") =>
    if isWord "in" (← peekSecond) then
      discard next
      discard next
      return some "not in"
    else return Option.none
  | _ => return Option.none

/-- Comparisons. -/
def comparison (g : Grammar) : Reader Expr := do
  let left ← g.bitwiseOr
  let step : Reader (Option (String × Expr)) := do
    match ← relation with
    | some r => return some (r, ← g.bitwiseOr)
    | Option.none => return Option.none
  let rest ← collect step
  if rest.isEmpty then return left
  else return .compare left (rest.map (·.1)) (rest.map (·.2))

/-- Negations. -/
def readInversion (g : Grammar) : Reader Expr := do
  if ← skipWord "not" then return .unary .not (← g.inversion) else g.comparison

/-- Operands joined by one connective. -/
def connected (operand : Reader Expr) (op : BoolOp) (word : String) : Reader Expr := do
  let first ← operand
  let step : Reader (Option Expr) := do
    if ← skipWord word then return some (← operand) else return Option.none
  let rest ← collect step
  if rest.isEmpty then return first else return .connect op (first :: rest)

/-- Disjunctions. -/
def disjunction (g : Grammar) : Reader Expr :=
  connected (connected g.readInversion .and "and") .or "or"

/-! ## Parameters -/

/-- A piece of a list of parameters. -/
inductive ParamPiece where
  /-- A parameter with an optional default. -/
  | plain (param : Param Expr) (default : Option Expr)
  /-- The mark after the positional-only parameters. -/
  | slash
  /-- The mark before the keyword-only parameters. -/
  | star
  /-- The parameter for the remaining positional arguments. -/
  | variadic (param : Param Expr)
  /-- The parameter for the remaining keyword arguments. -/
  | keyVariadic (param : Param Expr)

/-- A parameter, with its annotation where annotations are allowed. -/
def param (ascription : Reader (Option Expr)) : Reader (Param Expr) := do
  let name ← identifier
  return ⟨name, ← ascription⟩

/-- One piece of a list of parameters. -/
def paramPiece (g : Grammar) (ascription starAscription : Reader (Option Expr)) : Reader ParamPiece := do
  if ← skipOp "/" then return .slash
  else if ← skipOp "**" then return .keyVariadic (← param ascription)
  else if ← skipOp "*" then
    if ← atOp "," then return .star else return .variadic (← param starAscription)
  else
    let p ← param ascription
    if ← skipOp "=" then return .plain p (some (← g.expression)) else return .plain p Option.none

/-- The parameters with one more piece in front of those that follow it. The positional parameters come first, with
defaults only at their end; a bare star needs a keyword-only parameter; nothing follows the parameter for the
remaining keyword arguments. -/
def positionalParams (p : Params Expr) (slashed : Bool) : List ParamPiece → Option (Params Expr)
  | [] => some p
  | .plain q d :: rest =>
    match d with
    | some value => positionalParams { p with regular := p.regular ++ [q], defaults := p.defaults ++ [value] } slashed rest
    | Option.none =>
      if p.defaults.isEmpty then positionalParams { p with regular := p.regular ++ [q] } slashed rest
      else Option.none
  | .slash :: rest =>
    if slashed || p.regular.isEmpty then Option.none
    else positionalParams { p with posOnly := p.regular, regular := [] } true rest
  | .star :: rest =>
    match rest with
    | .plain .. :: _ => keyParams p rest
    | _ => Option.none
  | .variadic q :: rest => keyParams { p with variadic := some q } rest
  | .keyVariadic q :: rest => if rest.isEmpty then some { p with keyVariadic := some q } else Option.none
where
  /-- The keyword-only parameters. -/
  keyParams (p : Params Expr) : List ParamPiece → Option (Params Expr)
    | [] => some p
    | .plain q d :: rest => keyParams { p with keyOnly := p.keyOnly ++ [q], keyDefaults := p.keyDefaults ++ [d] } rest
    | .keyVariadic q :: rest => if rest.isEmpty then some { p with keyVariadic := some q } else Option.none
    | _ => Option.none

/-- No parameters. -/
def noParams : Params Expr := ⟨[], [], [], Option.none, [], [], Option.none⟩

/-- The parameters up to the operator `close`, which is not read. -/
def paramsUntil (g : Grammar) (close : String) (ascription starAscription : Reader (Option Expr)) :
    Reader (Params Expr) := do
  if ← atOp close then return noParams
  else
    let (pieces, _) ← itemsUntil (isOp close) (g.paramPiece ascription starAscription)
    guard (← atOp close)
    lift (positionalParams noParams false pieces)

/-- An annotation. -/
def ascription (g : Grammar) : Reader (Option Expr) := do
  if ← skipOp ":" then return some (← g.expression) else return Option.none

/-- An annotation that may have a star. -/
def starAscription (g : Grammar) : Reader (Option Expr) := do
  if ← skipOp ":" then return some (← g.starExpression) else return Option.none

/-- The parameters of a function definition. -/
def parameters (g : Grammar) : Reader (Params Expr) :=
  g.paramsUntil ")" g.ascription g.starAscription

/-- An anonymous function. -/
def anonymousFunction (g : Grammar) : Reader Expr := do
  reserved "lambda"
  let p ← g.paramsUntil ":" (return Option.none) (return Option.none)
  op ":"
  let body ← g.expression
  let names := List.map Param.name
  return .lambda (names p.posOnly) (names p.regular) (p.variadic.map (·.name)) (names p.keyOnly)
    (p.keyVariadic.map (·.name)) p.defaults p.keyDefaults body

/-- An expression that is not a bare sequence of items. -/
def readExpression (g : Grammar) : Reader Expr := do
  if ← atWord "lambda" then g.anonymousFunction
  else
    let body ← g.disjunction
    if ← skipWord "if" then
      let test ← g.disjunction
      reserved "else"
      return .choice body test (← g.expression)
    else return body

/-! ## Arguments -/

/-- One argument of a call. -/
def argument (g : Grammar) : Reader Expr := do
  if ← skipOp "*" then return .starred (← g.expression)
  else if ← skipOp "**" then return .keyword Option.none (← g.expression)
  else
    match ← peek, ← peekSecond with
    | some (.word _), some (.op "=") =>
      let name ← identifier
      discard next
      return .keyword (some name) (← g.expression)
    | _, _ =>
      let e ← g.namedExpression
      guard !(← atOp "=")
      return e

/-- Whether arguments come in an allowed order: no positional one after a keyword or an unpacked mapping, and no
unpacked sequence after an unpacked mapping. -/
def argumentsOrdered (named unpacked : Bool) : List Expr → Bool
  | [] => true
  | .keyword Option.none _ :: es => argumentsOrdered true true es
  | .keyword (some _) _ :: es => argumentsOrdered true unpacked es
  | .starred _ :: es => !unpacked && argumentsOrdered named unpacked es
  | _ :: es => !named && argumentsOrdered named unpacked es

/-- Whether an argument is given by keyword. -/
def isKeywordArgument : Expr → Bool
  | .keyword .. => true
  | _ => false

/-- The arguments from the given first one up to the closing bracket, which is not read: positional ones, then those
by keyword. -/
def argumentsAfter (g : Grammar) (first : Expr) : Reader (List Expr × List Expr) := do
  let (items, _) ← itemsAfter (isOp ")") g.argument first
  guard (argumentsOrdered false false items)
  return (items.filter (!isKeywordArgument ·), items.filter isKeywordArgument)

/-- The arguments up to the closing bracket, which is not read: positional ones, then those by keyword. -/
def arguments (g : Grammar) : Reader (List Expr × List Expr) := do
  if ← atOp ")" then return ([], []) else g.argumentsAfter (← g.argument)

/-! ## Atoms -/

/-- The quoted texts that come next. -/
def quotedRun : Reader (List Quoted) :=
  collect do
    match ← peek with
    | some (.quoted q) =>
      discard next
      return some q
    | _ => return Option.none

/-- The constant of a number. -/
def numberConstant : Number → Constant
  | .whole n => .whole n
  | .real x => .real x
  | .imaginary x => .imaginary x

/-- Whether an expression is starred. -/
def isStarred : Expr → Bool
  | .starred _ => true
  | _ => false

/-- Whether a clause of a comprehension comes next. -/
def atClause : Reader Bool := return (← atWord "for") || (← atWord "async")

/-- An atom with a trailing attribute, call or index, repeated. The atom is given. -/
def primaryFrom (g : Grammar) (clauses : Reader (List Expr)) (first : Expr) : Reader Expr := do
  let step : Reader (Option (Expr → Expr)) := do
    if ← skipOp "." then
      let attr ← identifier
      return some fun e => .attribute e attr
    else if ← skipOp "(" then
      if ← skipOp ")" then return some fun e => .call e [] []
      let argument ← g.argument
      if ← atClause then
        -- a generator may stand as the only argument without brackets of its own
        guard !(isStarred argument || isKeywordArgument argument)
        let cs ← clauses
        op ")"
        return some fun e => .call e [.comprehension .generator argument cs] []
      let (args, keywords) ← g.argumentsAfter argument
      op ")"
      return some fun e => .call e args keywords
    else if ← skipOp "[" then
      let index ← slices
      op "]"
      return some fun e => .subscript e index
    else return Option.none
  let trailers ← collect step
  return trailers.foldl (fun e t => t e) first
where
  /-- A bound of a part of a sequence. -/
  bound : Reader (Option Expr) := do
    if isOneOf [":", "]", ","] (← peek) then return Option.none else return some (← g.expression)
  /-- One index, or a part of a sequence. -/
  slice : Reader Expr := do
    let part (lower : Option Expr) : Reader Expr := do
      op ":"
      let upper ← bound
      let step ← if ← skipOp ":" then bound else pure Option.none
      return .slice lower upper step
    if ← atOp ":" then part Option.none
    else
      let named ← atNamed
      let e ← g.namedExpression
      if (← atOp ":") && !named then part (some e) else return e
  /-- One index, or a tuple of them. -/
  slices : Reader Expr := do
    let item : Reader Expr := do
      if ← skipOp "*" then return .starred (← g.expression) else slice
    let (items, trailing) ← itemsUntil (isOp "]") item
    match items with
    | [.starred _] => return .tuple items
    | [only] => return if trailing then .tuple items else only
    | _ => return .tuple items

/-- The items after the first one of a display, up to its closing bracket, which is read. -/
def moreItems (item : Reader Expr) (close : String) : Reader (List Expr) := do
  if ← skipOp close then return []
  else
    let (items, _) ← itemsUntil (isOp close) item
    op close
    return items

/-- What follows an opening round bracket. -/
def roundBracket (g : Grammar) (clauses : Reader (List Expr)) : Reader Expr := do
  if ← skipOp ")" then return .tuple []
  else if ← atWord "yield" then
    let e ← g.yieldExpression
    op ")"
    return e
  else
    let first ← g.starNamedExpression
    if ← skipOp "," then return .tuple (first :: (← moreItems g.starNamedExpression ")"))
    guard !(isStarred first)
    if ← atClause then
      let cs ← clauses
      op ")"
      return .comprehension .generator first cs
    op ")"
    return first

/-- What follows an opening square bracket. -/
def squareBracket (g : Grammar) (clauses : Reader (List Expr)) : Reader Expr := do
  if ← skipOp "]" then return .list []
  else
    let first ← g.starNamedExpression
    if ← skipOp "," then return .list (first :: (← moreItems g.starNamedExpression "]"))
    if ← atClause then
      guard !(isStarred first)
      let cs ← clauses
      op "]"
      return .comprehension .list first cs
    op "]"
    return .list [first]

/-- A pair or an unpacked mapping of a dictionary. -/
def dictItem (g : Grammar) : Reader Expr := do
  if ← skipOp "**" then return .unpacked (← g.bitwiseOr)
  else
    let key ← g.expression
    op ":"
    return .pair key (← g.expression)

/-- The rest of a dictionary after its first item. -/
def dictAfter (g : Grammar) (clauses : Reader (List Expr)) (first : Expr) : Reader Expr := do
  if ← skipOp "," then return .dict (first :: (← moreItems g.dictItem "\x7d"))
  if ← atClause then
    match first with
    | .pair key value =>
      let cs ← clauses
      op "\x7d"
      return .dictComprehension key value cs
    | _ => failure
  op "\x7d"
  return .dict [first]

/-- The rest of a set after its first item. -/
def setAfter (g : Grammar) (clauses : Reader (List Expr)) (first : Expr) : Reader Expr := do
  if ← skipOp "," then return .set (first :: (← moreItems g.starNamedExpression "\x7d"))
  if ← atClause then
    guard !(isStarred first)
    let cs ← clauses
    op "\x7d"
    return .comprehension .set first cs
  op "\x7d"
  return .set [first]

/-- What follows an opening curly bracket. The first item decides: a colon follows the key of a dictionary. -/
def curlyBracket (g : Grammar) (clauses : Reader (List Expr)) : Reader Expr := do
  if ← skipOp "\x7d" then return .dict []
  else if ← atOp "**" then g.dictAfter clauses (← g.dictItem)
  else
    let named ← atNamed
    let first ← g.starNamedExpression
    if (← atOp ":") && !isStarred first && !named then
      op ":"
      g.dictAfter clauses (.pair first (← g.expression))
    else g.setAfter clauses first

/-- An atom. -/
def atom (g : Grammar) (clauses : Reader (List Expr)) : Reader Expr := do
  match ← peek with
  | some (.quoted _) => lift (joinQuoted g.embedded (← quotedRun))
  | some (.number n) =>
    discard next
    return .const (numberConstant n)
  | some (.word "None") => discard next; return .const .absent
  | some (.word "True") => discard next; return .const (.truth true)
  | some (.word "False") => discard next; return .const (.truth false)
  | some (.word _) => return .name (← identifier)
  | some (.op "...") => discard next; return .const .ellipsis
  | some (.op "(") => discard next; g.roundBracket clauses
  | some (.op "[") => discard next; g.squareBracket clauses
  | some (.op "\x7b") => discard next; g.curlyBracket clauses
  | _ => failure

/-! ## Targets and clauses -/

/-- An atom with what trails it. -/
def primaryWith (g : Grammar) (clauses : Reader (List Expr)) : Reader Expr := do
  g.primaryFrom clauses (← g.atom clauses)

/-- A target with an optional star. Targets are never built with operators. -/
def starTargetWith (g : Grammar) (clauses : Reader (List Expr)) : Reader Expr := do
  let e ← if ← skipOp "*" then (Expr.starred <$> g.primaryWith clauses) else g.primaryWith clauses
  guard e.isStarTarget
  return e

/-- The target of a loop, in front of the word `in`. -/
def starTargetsWith (g : Grammar) (clauses : Reader (List Expr)) : Reader Expr := do
  let (items, trailing) ← itemsUntil (isWord "in") (g.starTargetWith clauses)
  match items with
  | [item] => return if trailing then .tuple items else item
  | _ => return .tuple items

/-- The clauses of a comprehension, at most `depth` comprehensions deep in the targets of these clauses. -/
def clausesUpTo (g : Grammar) : Nat → Reader (List Expr)
  | 0 => failure
  | depth + 1 => do
    let clause : Reader Expr := do
      let isAsync ← skipWord "async"
      reserved "for"
      let target ← g.starTargetsWith (g.clausesUpTo depth)
      reserved "in"
      let source ← g.disjunction
      let conditions ← collect do
        if ← skipWord "if" then return some (← g.disjunction) else return Option.none
      return .clause isAsync target source conditions
    let first ← clause
    let more ← collect do
      if ← atClause then return some (← clause) else return Option.none
    return first :: more

/-- The clauses of a comprehension. -/
def clauses (g : Grammar) : Reader (List Expr) := fun s =>
  g.clausesUpTo (s.rest.length + 1) s

/-- A target with an optional star. -/
def starTarget (g : Grammar) : Reader Expr := g.starTargetWith g.clauses

/-- The target of a loop. -/
def starTargets (g : Grammar) : Reader Expr := g.starTargetsWith g.clauses

/-- An atom with what trails it. -/
def primary (g : Grammar) : Reader Expr := g.primaryWith g.clauses

/-- A prefix operator and its operand, or a power. -/
def readFactor (g : Grammar) : Reader Expr := do
  match ← peek with
  | some (.op "+") => discard next; return .unary .plus (← g.factor)
  | some (.op "-") => discard next; return .unary .minus (← g.factor)
  | some (.op "~") => discard next; return .unary .complement (← g.factor)
  | _ =>
    let base ← if ← skipWord "await" then (Expr.await <$> g.primary) else g.primary
    if ← skipOp "**" then return .binary .pow base (← g.factor) else return base

end Grammar

end CodeAtlas.Source
