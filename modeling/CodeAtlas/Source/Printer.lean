import CodeAtlas.Decimal.Written
import CodeAtlas.Source.Expr
import CodeAtlas.Text.Cut
import CodeAtlas.Text.Quoted

/-!
# Written form of expressions

An expression is written back as source text in one canonical form, with brackets only where the binding
strengths of the operators ask for them.

Inside the replacement fields of a formatted text no backslash can be written, so texts there prefer a quote
that needs no escape.

## Main definitions

* `Strength`: binding strengths.
* `quoteBytes`, `quoteAvoiding`: quoted form of bytes, and of texts without backslashes.
* `Expr.write`: an expression in a context of some strength.
* `Expr.text`: an expression as it stands on its own.
-/

namespace CodeAtlas.Source

open Text (escapeCode chooseQuote quotedChars quoteText)

/-! ## Binding strengths -/

/-- How strongly an expression binds. The larger, the tighter. -/
abbrev Strength := Nat

namespace Strength

/-- A value that gets a name. -/
def named : Strength := 1
/-- Items of a tuple. -/
def tuple : Strength := 2
/-- A value handed out. -/
def yield : Strength := 3
/-- Choices and anonymous functions, and whatever nothing is said about. -/
def test : Strength := 4
/-- Disjunction. -/
def or : Strength := 5
/-- Conjunction. -/
def and : Strength := 6
/-- Negation. -/
def not : Strength := 7
/-- Comparison. -/
def compare : Strength := 8
/-- Bitwise or, the weakest operator on values. -/
def value : Strength := 9
/-- Prefix operators on values. -/
def factor : Strength := 15
/-- Powers. -/
def power : Strength := 16
/-- Awaited values. -/
def await : Strength := 17
/-- Atoms. -/
def atom : Strength := 18

/-- The next tighter strength. Nothing is tighter than an atom. -/
def next (s : Strength) : Strength := min (s + 1) atom

end Strength

/-- The symbol of a prefix operator. -/
def UnaryOp.symbol : UnaryOp → String
  | .not => "not "
  | .complement => "~"
  | .plus => "+"
  | .minus => "-"

/-- The strength of a prefix operator. -/
def UnaryOp.strength : UnaryOp → Strength
  | .not => Strength.not
  | _ => Strength.factor

/-- The symbol of a binary operator. -/
def BinaryOp.symbol : BinaryOp → String
  | .bitOr => "|"
  | .bitXor => "^"
  | .bitAnd => "&"
  | .shiftLeft => "<<"
  | .shiftRight => ">>"
  | .add => "+"
  | .sub => "-"
  | .mul => "*"
  | .matMul => "@"
  | .div => "/"
  | .floorDiv => "//"
  | .mod => "%"
  | .pow => "**"

/-- The strength of a binary operator. -/
def BinaryOp.strength : BinaryOp → Strength
  | .bitOr => Strength.value
  | .bitXor => 10
  | .bitAnd => 11
  | .shiftLeft | .shiftRight => 12
  | .add | .sub => 13
  | .mul | .matMul | .div | .floorDiv | .mod => 14
  | .pow => Strength.power

/-- The word of a connective. -/
def BoolOp.symbol : BoolOp → String
  | .and => "and"
  | .or => "or"

/-- The strength of a connective. -/
def BoolOp.strength : BoolOp → Strength
  | .and => Strength.and
  | .or => Strength.or

/-! ## Quoted texts -/

/-- The quoted form of bytes. -/
def quoteBytes (value : List Nat) : List Char :=
  let quote := chooseQuote value
  'b' :: quote :: (value.flatMap fun n =>
    if n = quote.toNat then ['\\', quote]
    else if n = '\\'.toNat || n < 32 || 127 ≤ n then escapeCode n
    else [Char.ofNat n]) ++ [quote]

/-- The quotes that a text can stand in, in order of preference. -/
def allQuotes : List (List Char) :=
  [['\''], ['"'], ['"', '"', '"'], ['\'', '\'', '\'']]

/-- Whether `part` occurs in `whole`. -/
def occursIn (part : List Char) : List Char → Bool
  | [] => part.isEmpty
  | c :: cs => part.isPrefixOf (c :: cs) || occursIn part cs

/-- A text with as few escapes as possible, and the quotes of `quotes` that it can stand in. Newlines and tabs are
escaped only on request. If no quote fits, the text is escaped for its usual quote. -/
def fewEscapes (quotes : List (List Char)) (escapeLayout : Bool) (value : List Nat) :
    List Char × List (List Char) :=
  let escaped := value.flatMap fun n =>
    if !escapeLayout && (n = 10 || n = 9) then [Char.ofNat n]
    else if n = '\\'.toNat || !Text.isPrintable n then escapeCode n
    else [Char.ofNat n]
  let tall := if escaped.contains '\n' then quotes.filter (·.length == 3) else quotes
  let fitting := tall.filter fun q => !occursIn q escaped
  match fitting with
  | [] =>
    let quote := chooseQuote value
    (quotedChars quote value, [(quotes.find? (·.contains quote)).getD [quote]])
  | _ =>
    match escaped.getLast? with
    | none => (escaped, fitting)
    | some last =>
      let ordered := fitting.filter (·.head? != some last) ++ fitting.filter (·.head? == some last)
      if (ordered.head?.bind List.head?) == some last then (escaped.dropLast ++ ['\\', last], ordered)
      else (escaped, ordered)

/-- A text in the first quote that suits it, without backslashes if possible. -/
def quoteAvoiding (value : List Nat) : List Char :=
  let (body, quotes) := fewEscapes allQuotes false value
  let quote := quotes.headD ['\'']
  quote ++ body ++ quote

/-- The code points of characters. -/
def codes (cs : List Char) : List Nat :=
  cs.map Char.toNat

/-- The parts of a formatted text in quotes that suit them all. A part is literal or not; only literal parts have
their newlines and tabs escaped. The quotes that are left get fewer from part to part; when none is left, all
parts are escaped for three single quotes. -/
def quoteParts (parts : List (List Nat × Bool)) : List Char :=
  let step (state : Option (List Char × List (List Char))) (part : List Nat × Bool) :=
    state.bind fun (body, quotes) =>
      let (text, left) := fewEscapes quotes part.2 part.1
      if left.any quotes.contains then some (body ++ text, left) else none
  match parts.foldl step (some ([], allQuotes)) with
  | some (body, quotes) =>
    let quote := quotes.headD ['\'']
    quote ++ body ++ quote
  | none =>
    let quote := ['\'', '\'', '\'']
    -- a double quote in front makes the single quote the usual one
    let body := parts.flatMap fun part => (quotedChars '\'' part.1)
    quote ++ body ++ quote

/-! ## Constants -/

/-- What is written for a real number too large for a double. -/
def overflowText : String := "1e309"

/-- A real number. -/
def writeReal (x : Float) : String :=
  { Decimal.plain with infinity := overflowText }.write x

/-- The imaginary part of an imaginary number: whole numbers have no point. -/
def writeImaginary (x : Float) : String :=
  { Decimal.plain with infinity := overflowText, wholeTail := "" }.write x ++ "j"

/-- A constant, avoiding backslashes in texts on request. -/
def Constant.write (avoid : Bool) : Constant → String
  | .absent => "None"
  | .truth value => if value then "True" else "False"
  | .ellipsis => "..."
  | .whole value => String.ofList (Nat.toDigits 10 value)
  | .real value => writeReal value
  | .imaginary value => writeImaginary value
  | .text marked value =>
    (if marked then "u" else "") ++ String.ofList (if avoid then quoteAvoiding value else quoteText value)
  | .bytes value => String.ofList (quoteBytes value)

/-- Whether a constant is a whole number or a truth value, in front of which an attribute needs a blank. -/
def Expr.isWhole : Expr → Bool
  | .const (.whole _) | .const (.truth _) => true
  | _ => false

/-- Whether an expression is a tuple. -/
def Expr.isTuple : Expr → Bool
  | .tuple _ => true
  | _ => false

/-! ## Expressions -/

/-- The text in round brackets if the context binds tighter than `own`. -/
def bracketed (context own : Strength) (text : String) : String :=
  if own < context then "(" ++ text ++ ")" else text

/-- Items with commas between them; a single item gets a comma after it. -/
def itemsView (items : List String) : String :=
  match items with
  | [item] => item ++ ","
  | _ => Text.joinWith ", " items

/-- A way to write an expression: avoiding backslashes or not, in a context of some strength. -/
abbrev Writer := Bool → Strength → String

/-- The parameters of an anonymous function. -/
def writeLambdaParams (posOnly regular : List String) (variadic : Option String) (keyOnly : List String)
    (keyVariadic : Option String) (defaults : List String) (keyDefaults : List (Option String)) : String :=
  let names := posOnly ++ regular
  let first := names.length - defaults.length
  let positional := names.mapIdx fun i name =>
    let shown := match if i < first then none else defaults[i - first]? with
      | some value => name ++ "=" ++ value
      | none => name
    if i + 1 = posOnly.length then shown ++ ", /" else shown
  let star := match variadic with
    | some name => ["*" ++ name]
    | none => if keyOnly.isEmpty then [] else ["*"]
  let keys := (keyOnly.zip keyDefaults).map fun (name, value) =>
    match value with
    | some value => name ++ "=" ++ value
    | none => name
  let doubleStar := match keyVariadic with
    | some name => ["**" ++ name]
    | none => []
  Text.joinWith ", " (positional ++ star ++ keys ++ doubleStar)

/-- The characters of a literal part with its braces doubled. -/
def doubleBraces (value : List Nat) : List Nat :=
  value.flatMap fun n => if n = '{'.toNat || n = '}'.toNat then [n, n] else [n]

/-- The code points of a replacement field. A blank keeps a brace at its start apart. -/
def fieldCodes (value : String) (conversion : Option Char) (format : Option (List Nat)) : List Nat :=
  let cs := value.toList
  let body := if cs.head? = some '{' then ' ' :: cs else cs
  let mark := match conversion with
    | some c => ['!', c]
    | none => []
  let tail := match format with
    | some codes => ':'.toNat :: codes
    | none => []
  codes ('{' :: body ++ mark) ++ tail ++ codes ['}']

mutual

/-- An expression in a context. -/
def Expr.write : Expr → Writer
  | .const value => fun avoid _ => value.write avoid
  | .name id => fun _ _ => id
  | .attribute value attr => fun avoid _ =>
    value.write avoid Strength.atom ++ (if value.isWhole then " ." else ".") ++ attr
  | .subscript value index => fun avoid _ =>
    -- a tuple as index needs no brackets
    let context := if index.isTuple then Strength.tuple else Strength.test
    value.write avoid Strength.atom ++ "[" ++ index.write avoid context ++ "]"
  | .slice lower upper step => fun avoid _ =>
    let part (o : Option Writer) : String := (o.map fun w => w avoid Strength.test).getD ""
    part (writeOption lower) ++ ":" ++ part (writeOption upper) ++
      ((writeOption step).map fun w => ":" ++ w avoid Strength.test).getD ""
  | .call function args keywords => fun avoid _ =>
    let shown := (writeEach args ++ writeEach keywords).map fun w => w avoid Strength.test
    function.write avoid Strength.atom ++ "(" ++ Text.joinWith ", " shown ++ ")"
  | .keyword name value => fun avoid _ =>
    (match name with
      | some name => name ++ "="
      | none => "**") ++ value.write avoid Strength.test
  | .starred value => fun avoid _ => "*" ++ value.write avoid Strength.value
  | .unary op operand => fun avoid context =>
    bracketed context op.strength (op.symbol ++ operand.write avoid op.strength)
  | .binary op left right => fun avoid context =>
    let tight := op.strength.next
    let isPower := op = .pow
    bracketed context op.strength
      (left.write avoid (if isPower then tight else op.strength) ++ " " ++ op.symbol ++ " " ++
        right.write avoid (if isPower then op.strength else tight))
  | .compare left relations operands => fun avoid context =>
    let tight := Strength.compare.next
    let rest := (relations.zip (writeEach operands)).map fun (relation, w) =>
      " " ++ relation ++ " " ++ w avoid tight
    bracketed context Strength.compare (left.write avoid tight ++ String.join rest)
  | .connect op operands => fun avoid context =>
    -- each operand stands one step tighter than the one before
    let shown := (writeEach operands).mapIdx fun i w => w avoid (min (op.strength + i + 1) Strength.atom)
    bracketed context op.strength (Text.joinWith (" " ++ op.symbol ++ " ") shown)
  | .choice body test otherwise => fun avoid context =>
    let tight := Strength.test.next
    bracketed context Strength.test
      (body.write avoid tight ++ " if " ++ test.write avoid tight ++ " else " ++
        otherwise.write avoid Strength.test)
  | .lambda posOnly regular variadic keyOnly keyVariadic defaults keyDefaults body => fun avoid context =>
    let params := writeLambdaParams posOnly regular variadic keyOnly keyVariadic
      ((writeEach defaults).map fun w => w avoid Strength.test)
      ((writeOptions keyDefaults).map fun o => o.map fun w => w avoid Strength.test)
    bracketed context Strength.test
      ("lambda" ++ (if params.isEmpty then "" else " " ++ params) ++ ": " ++ body.write avoid Strength.test)
  | .tuple items => fun avoid context =>
    let shown := itemsView ((writeEach items).map fun w => w avoid Strength.test)
    if items.isEmpty || Strength.tuple < context then "(" ++ shown ++ ")" else shown
  | .list items => fun avoid _ =>
    "[" ++ Text.joinWith ", " ((writeEach items).map fun w => w avoid Strength.test) ++ "]"
  | .set items => fun avoid _ =>
    "\x7b" ++ Text.joinWith ", " ((writeEach items).map fun w => w avoid Strength.test) ++ "\x7d"
  | .dict items => fun avoid _ =>
    "\x7b" ++ Text.joinWith ", " ((writeEach items).map fun w => w avoid Strength.test) ++ "\x7d"
  | .pair key value => fun avoid _ => key.write avoid Strength.test ++ ": " ++ value.write avoid Strength.test
  | .unpacked value => fun avoid _ => "**" ++ value.write avoid Strength.value
  | .comprehension display item clauses => fun avoid _ =>
    let body := item.write avoid Strength.test ++
      String.join ((writeEach clauses).map fun w => w avoid Strength.test)
    match display with
    | .list => "[" ++ body ++ "]"
    | .set => "\x7b" ++ body ++ "\x7d"
    | .generator => "(" ++ body ++ ")"
  | .dictComprehension key value clauses => fun avoid _ =>
    "\x7b" ++ key.write avoid Strength.test ++ ": " ++ value.write avoid Strength.test ++
      String.join ((writeEach clauses).map fun w => w avoid Strength.test) ++ "\x7d"
  | .clause isAsync target source conditions => fun avoid _ =>
    let tight := Strength.test.next
    (if isAsync then " async for " else " for ") ++ target.write avoid Strength.tuple ++ " in " ++
      source.write avoid tight ++ String.join ((writeEach conditions).map fun w => " if " ++ w avoid tight)
  | .yield value => fun avoid context =>
    bracketed context Strength.yield
      ("yield" ++ ((writeOption value).map fun w => " " ++ w avoid Strength.atom).getD "")
  | .yieldFrom value => fun avoid context =>
    bracketed context Strength.yield ("yield from " ++ value.write avoid Strength.atom)
  | .await value => fun avoid context =>
    bracketed context Strength.await ("await " ++ value.write avoid Strength.atom)
  | .named target value => fun avoid context =>
    bracketed context Strength.named (target ++ " := " ++ value.write avoid Strength.atom)
  | .formatted parts => fun avoid _ =>
    let shown := writeParts parts
    "f" ++ String.ofList (if avoid then quoteAvoiding (shown.flatMap (·.1)) else quoteParts shown)
  | .formatText value => fun _ _ => String.ofList (value.map Char.ofNat)
  | .formatField value conversion format => fun _ _ =>
    String.ofList ((fieldCodes (value.write true Strength.test.next) conversion (writeFormat format)).map
      Char.ofNat)

/-- Each of some expressions. -/
def writeEach : List Expr → List Writer
  | [] => []
  | e :: es => e.write :: writeEach es

/-- An optional expression. -/
def writeOption : Option Expr → Option Writer
  | none => none
  | some e => some e.write

/-- Each of some optional expressions. -/
def writeOptions : List (Option Expr) → List (Option Writer)
  | [] => []
  | e :: es => writeOption e :: writeOptions es

/-- The code points of the parts of a formatted text, and whether each part is literal. -/
def writeParts : List Expr → List (List Nat × Bool)
  | [] => []
  | .formatText value :: es => (doubleBraces value, true) :: writeParts es
  | .formatField value conversion format :: es =>
    (fieldCodes (value.write true Strength.test.next) conversion (writeFormat format), false) :: writeParts es
  | e :: es => (codes (e.write true Strength.test).toList, false) :: writeParts es

/-- The code points of an optional format. -/
def writeFormat : Option (List Expr) → Option (List Nat)
  | none => none
  | some parts => some ((writeParts parts).flatMap (·.1))

end

/-- An expression as it stands on its own. -/
def Expr.text (e : Expr) : String :=
  e.write false Strength.test

end CodeAtlas.Source
