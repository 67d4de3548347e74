import CodeAtlas.Source.Expr
import CodeAtlas.Source.Lexer
import CodeAtlas.Text.Named

/-!
# The value of quoted texts

Escapes are decoded to code points, neighbouring quoted texts are joined, and formatted texts are taken apart
into literal parts and replacement fields. The expression inside a field is read by a function that the caller
supplies.

## Main definitions

* `decodeText`, `decodeBytes`: the code points or bytes that the characters between the quotes stand for.
* `formatParts`: the parts of a formatted text.
* `joinQuoted`: the expression that neighbouring quoted texts stand for.
-/

namespace CodeAtlas.Source

/-! ## Escapes -/

/-- The value of exactly `count` hexadecimal digits. -/
def hexValue (count : Nat) (cs : List Char) : Option Nat :=
  let digits := cs.take count
  if digits.length = count && digits.all isHexDigit then some (digitsValue 16 digits) else none

/-- An octal digit. -/
def isOctalDigit (c : Char) : Bool :=
  '0' ≤ c && c ≤ '7'

/-- The escapes of one letter that stand for one code point. -/
def simpleEscape (c : Char) : Option Nat :=
  match c with
  | '\\' | '\'' | '"' => some c.toNat
  | 'a' => some 7
  | 'b' => some 8
  | 'f' => some 12
  | 'n' => some 10
  | 'r' => some 13
  | 't' => some 9
  | 'v' => some 11
  | _ => none

/-- What a backslash and the characters after it stand for, and how many of these belong to the escape. An escape
that is not known stands for itself. -/
def escape (isBytes : Bool) (cs : List Char) : Option (List Nat × Nat) :=
  match cs with
  | [] => some (['\\'.toNat], 0)
  | '\n' :: _ => some ([], 1)
  | 'x' :: rest => (hexValue 2 rest).map fun n => ([n], 3)
  | c :: rest =>
    match simpleEscape c with
    | some n => some ([n], 1)
    | none =>
      if isOctalDigit c then
        let digits := (cs.take 3).takeWhile isOctalDigit
        let value := digitsValue 8 digits
        some ([if isBytes then value % 256 else value], digits.length)
      else if isBytes then some (['\\'.toNat, c.toNat], 1)
      else if c = 'u' then (hexValue 4 rest).map fun n => ([n], 5)
      else if c = 'U' then do
        let n ← hexValue 8 rest
        guard (n ≤ 0x10ffff)
        return ([n], 9)
      else if c = 'N' then do
        guard (rest.head? = some '{')
        let name := (rest.drop 1).takeWhile (· != '}')
        guard (name.length + 1 < rest.length)
        return ([← Text.characterNamed name], name.length + 3)
      else some (['\\'.toNat, c.toNat], 1)

/-- The code points of the characters after the next `skip`, with escapes decoded. -/
def decodeFrom (isBytes : Bool) (skip : Nat) : List Char → Option (List Nat)
  | [] => some []
  | c :: cs =>
    if 0 < skip then decodeFrom isBytes (skip - 1) cs
    else if c = '\\' then do
      let (value, length) ← escape isBytes cs
      return value ++ (← decodeFrom isBytes length cs)
    else do
      return c.toNat :: (← decodeFrom isBytes 0 cs)

/-- The code points that the characters of a text stand for. -/
def decodeText (isRaw : Bool) (cs : List Char) : Option (List Nat) :=
  if isRaw then some (cs.map Char.toNat) else decodeFrom false 0 cs

/-- The bytes that the characters of a byte text stand for. They have to be ASCII. -/
def decodeBytes (isRaw : Bool) (cs : List Char) : Option (List Nat) :=
  if cs.any fun c => 128 ≤ c.toNat then none
  else if isRaw then some (cs.map Char.toNat) else decodeFrom true 0 cs

/-! ## Formatted texts -/

/-- The literal characters in front of the next replacement field, and what follows them. At the top level a
doubled brace stands for one brace and a single closing brace is refused; inside a format any brace ends the
literal. -/
def literalPart (isRaw isTop : Bool) : Nat → List Char → Option (List Char × List Char)
  | 0, _ => none
  | _, [] => some ([], [])
  | steps + 1, c :: cs =>
    let brace (b : Char) (before more : List Char) : Option (List Char × List Char) :=
      if isTop && more.head? = some b then do
        let (literal, rest) ← literalPart isRaw isTop steps (more.drop 1)
        return (before ++ b :: literal, rest)
      else if isTop && b = '}' then none
      else some (before, b :: more)
    if !isRaw && c = '\\' then
      match cs with
      | [] => some ([c], [])
      | d :: more =>
        if d = 'N' && more.head? = some '{' then do
          let name := more.takeWhile (· != '}')
          let (literal, rest) ← literalPart isRaw isTop steps (more.drop (name.length + 1))
          return (c :: d :: name ++ '}' :: literal, rest)
        else if d = '{' || d = '}' then brace d [c] more
        else do
          let (literal, rest) ← literalPart isRaw isTop steps more
          return (c :: d :: literal, rest)
    else if c = '{' || c = '}' then brace c [] cs
    else do
      let (literal, rest) ← literalPart isRaw isTop steps cs
      return (c :: literal, rest)

/-- The quotes inside a field: none, or the quote that ends the current text and whether it takes three. -/
abbrev OpenQuote := Option (Char × Bool)

/-- The characters of the expression of a field, and what follows them: the expression ends at `!`, `:`, `}` or `=`
outside of brackets and quotes, unless the character belongs to a comparison. -/
def fieldText (quote : OpenQuote) (brackets : List Char) : Nat → List Char → Option (List Char × List Char)
  | 0, _ => none
  | _, [] => if quote.isNone && brackets.isEmpty then some ([], []) else none
  | steps + 1, c :: cs =>
    let take (count : Nat) (quote : OpenQuote) (brackets : List Char) : Option (List Char × List Char) := do
      let (text, rest) ← fieldText quote brackets steps (cs.drop count)
      return (c :: cs.take count ++ text, rest)
    if c = '\\' then none
    else
      match quote with
      | some (q, isLong) =>
        if c = q then
          if !isLong then take 0 none brackets
          else if cs.take 2 == [q, q] then take 2 none brackets
          else take 0 quote brackets
        else take 0 quote brackets
      | none =>
        if isQuote c then
          if cs.take 2 == [c, c] then take 2 (some (c, true)) brackets else take 0 (some (c, false)) brackets
        else if c = '(' then take 0 none (')' :: brackets)
        else if c = '[' then take 0 none (']' :: brackets)
        else if c = '{' then take 0 none ('}' :: brackets)
        else if c = '#' then none
        else if brackets.isEmpty && (c = '!' || c = ':' || c = '}' || c = '=' || c = '<' || c = '>') then
          if cs.head? = some '=' && (c = '!' || c = '=' || c = '<' || c = '>') then take 1 none brackets
          else if c = '<' || c = '>' then take 0 none brackets
          else some ([], c :: cs)
        else if c = ')' || c = ']' || c = '}' then
          match brackets with
          | close :: others => if c = close then take 0 none others else none
          | [] => none
        else take 0 none brackets

/-- White space of ASCII. -/
def isAsciiSpace (c : Char) : Bool :=
  c == ' ' || (9 ≤ c.toNat && c.toNat ≤ 13)

/-- Literal code points in front of parts, merged with a literal part that comes first. -/
def prependText (text : List Nat) (parts : List Expr) : List Expr :=
  if text.isEmpty then parts
  else
    match parts with
    | .formatText more :: rest => .formatText (text ++ more) :: rest
    | _ => .formatText text :: parts

/-- The conversion of a field, after its `!`. -/
def conversionPart (cs : List Char) : Option (Char × List Char) :=
  match cs with
  | c :: rest =>
    if (c = 's' || c = 'r' || c = 'a') && (rest.head? = some '}' || rest.head? = some ':') then some (c, rest)
    else none
  | [] => none

/-- The parts of a formatted text, and what follows them: nothing at the top level, and the closing brace inside a
format. Formats can hold fields, but the formats of these cannot. The first argument reads the expression of a
field. -/
def formatPartsFrom (embedded : List Char → Option Expr) (isRaw : Bool) :
    Nat → Nat → List Char → Option (List Expr × List Char)
  | 0, _, _ => none
  | steps + 1, level, cs => do
    let (literal, rest) ← literalPart isRaw (level == 0) (cs.length + 1) cs
    let text ← decodeText isRaw literal
    match rest with
    | '{' :: field =>
      guard (level < 2)
      let (source, afterSource) ← fieldText none [] (field.length + 1) field
      guard (!afterSource.isEmpty && source.any fun c => !(c == ' ' || c == '\t' || c == '\n' || c == '\x0c'))
      let value ← embedded source
      let (shown, afterShown) := match afterSource with
        | '=' :: more =>
          let blanks := more.takeWhile isAsciiSpace
          (some (source ++ '=' :: blanks), more.drop blanks.length)
        | _ => (none, afterSource)
      let (conversion, afterConversion) ← match afterShown with
        | '!' :: more => (conversionPart more).map fun (c, r) => (some c, r)
        | _ => some (none, afterShown)
      let (format, afterFormat) ← match afterConversion with
        | ':' :: more =>
          if more.isEmpty then none
          else (formatPartsFrom embedded isRaw steps (level + 1) more).map fun (ps, r) => (some ps, r)
        | _ => some (none, afterConversion)
      match afterFormat with
      | '}' :: more =>
        let conversion := if shown.isSome && format.isNone && conversion.isNone then some 'r' else conversion
        let (parts, final) ← formatPartsFrom embedded isRaw steps level more
        let before := text ++ (shown.getD []).map Char.toNat
        return (prependText before (.formatField value conversion format :: parts), final)
      | _ => none
    | _ =>
      guard (rest.isEmpty || 0 < level)
      return (prependText text [], rest)

/-- The parts of a formatted text. -/
def formatParts (embedded : List Char → Option Expr) (isRaw : Bool) (cs : List Char) : Option (List Expr) :=
  (formatPartsFrom embedded isRaw (2 * cs.length + 2) 0 cs).map (·.1)

/-! ## Neighbouring texts -/

/-- The parts of one quoted text that does not stand for bytes. -/
def quotedParts (embedded : List Char → Option Expr) (q : Quoted) : Option (List Expr) :=
  if q.isFormat then formatParts embedded q.isRaw q.body
  else (decodeText q.isRaw q.body).map fun text => prependText text []

/-- The parts of two neighbouring texts, with the literal parts that meet merged. -/
def joinParts : List Expr → List Expr → List Expr
  | [], right => right
  | [.formatText text], right => prependText text right
  | part :: parts, right => part :: joinParts parts right

/-- The literal text of parts that hold no field. -/
def plainText : List Expr → List Nat
  | .formatText text :: _ => text
  | _ => []

/-- The expression that neighbouring quoted texts stand for. Bytes do not mix with texts. -/
def joinQuoted (embedded : List Char → Option Expr) (qs : List Quoted) : Option Expr :=
  if qs.any (·.isBytes) then
    if qs.all (·.isBytes) then
      (qs.mapM fun q => decodeBytes q.isRaw q.body).map fun values => .const (.bytes values.flatten)
    else none
  else do
    let parts ← qs.mapM (quotedParts embedded)
    let joined := parts.foldr joinParts []
    if qs.any (·.isFormat) then return .formatted joined
    else return .const (.text (qs.head?.any (·.isMarked)) (plainText joined))

end CodeAtlas.Source
