import CodeAtlas.Decimal.Round
import CodeAtlas.Source.Token
import CodeAtlas.Text.Identifier

/-!
# From characters to tokens

The lexer follows the layout rules of Python: a logical line ends at a newline outside of brackets, a line
that is deeper or shallower than the one before opens or closes blocks, and blank and comment lines do not
count. Any breach makes the whole text unreadable, so the result is optional.

## Main definitions

* `scanNumber`, `scanQuoted`, `scanOperator`: one token of each kind.
* `indentation`: the width of the white space in front of a line.
* `tokens`: all tokens of a text.
-/

namespace CodeAtlas.Source

/-! ## Numbers -/

/-- Digits after a first digit, with single underscores between them, and what follows. -/
def digitTail (isDigit : Char → Bool) : List Char → List Char × List Char
  | [] => ([], [])
  | '_' :: d :: cs =>
    if isDigit d then
      let (digits, rest) := digitTail isDigit cs
      (d :: digits, rest)
    else ([], '_' :: d :: cs)
  | c :: cs =>
    if isDigit c then
      let (digits, rest) := digitTail isDigit cs
      (c :: digits, rest)
    else ([], c :: cs)

/-- Digits with single underscores between them, and what follows. -/
def digitRun (isDigit : Char → Bool) : List Char → List Char × List Char
  | [] => ([], [])
  | c :: cs =>
    if isDigit c then
      let (digits, rest) := digitTail isDigit cs
      (c :: digits, rest)
    else ([], c :: cs)

/-- The value of a digit in any base up to sixteen. -/
def digitValue (c : Char) : Nat :=
  if c.isDigit then c.toNat - '0'.toNat
  else if 'a' ≤ c && c ≤ 'f' then c.toNat - 'a'.toNat + 10
  else c.toNat - 'A'.toNat + 10

/-- The number that digits stand for. -/
def digitsValue (base : Nat) (digits : List Char) : Nat :=
  digits.foldl (fun n c => n * base + digitValue c) 0

/-- A character that glues to a name or number in front of it. -/
def isWordChar (c : Char) : Bool :=
  c.isAlphanum || c == '_' || 128 ≤ c.toNat

/-- Whether a number may end in front of these characters: no word follows, except one of the operators and
connectives that can stand after a number. -/
def endsNumber (rest : List Char) : Bool :=
  ["and", "else", "for", "if", "in", "is", "or", "not"].any (fun w => w.toList.isPrefixOf rest) ||
    match rest with
    | [] => true
    | c :: _ => !isWordChar c

/-- A number in a base other than ten, after its two-character mark. -/
def scanRadix (base : Nat) (isDigit : Char → Bool) (cs : List Char) : Option (Number × List Char) :=
  let start := match cs with
    | '_' :: more => more
    | _ => cs
  let (digits, rest) := digitRun isDigit start
  if digits.isEmpty || !endsNumber rest then none
  else some (.whole (digitsValue base digits), rest)

/-- The exponent of a number: its value if one is written, nothing if the letter belongs to what follows, and
failure if the exponent is broken off. -/
def scanExponent (cs : List Char) : Option (Option Int × List Char) :=
  match cs with
  | e :: more =>
    if e == 'e' || e == 'E' then
      let (sign, signed, body) := match more with
        | '+' :: r => ((1 : Int), true, r)
        | '-' :: r => (-1, true, r)
        | _ => (1, false, more)
      let (digits, rest) := digitRun Char.isDigit body
      if digits.isEmpty then
        if signed then none else some (none, cs)
      else some (some (sign * digitsValue 10 digits), rest)
    else some (none, cs)
  | [] => some (none, cs)

/-- The most digits that a whole number in base ten may have. -/
def maxWholeDigits : Nat := 4300

/-- A number in base ten. A whole number has no leading zero unless all its digits are zero. -/
def scanDecimal (cs : List Char) : Option (Number × List Char) := do
  let (whole, afterWhole) := digitRun Char.isDigit cs
  let (hasPoint, fraction, afterFraction) := match afterWhole with
    | '.' :: r =>
      let (digits, rest) := digitRun Char.isDigit r
      (true, digits, rest)
    | _ => (false, [], afterWhole)
  let (exponent, afterExponent) ← scanExponent afterFraction
  let real := Decimal.toFloat false (digitsValue 10 (whole ++ fraction)) (exponent.getD 0 - fraction.length)
  match afterExponent with
  | j :: rest =>
    if (j == 'j' || j == 'J') && endsNumber rest then return (.imaginary real, rest)
  | [] => pure ()
  guard (endsNumber afterExponent)
  if hasPoint || exponent.isSome then return (.real real, afterExponent)
  guard (whole.head? != some '0' || whole.all (· == '0'))
  guard (whole.length ≤ maxWholeDigits)
  return (.whole (digitsValue 10 whole), afterExponent)

/-- A character of a number in base sixteen. -/
def isHexDigit (c : Char) : Bool :=
  c.isDigit || ('a' ≤ c && c ≤ 'f') || ('A' ≤ c && c ≤ 'F')

/-- A number. -/
def scanNumber (cs : List Char) : Option (Number × List Char) :=
  match cs with
  | '0' :: 'x' :: r | '0' :: 'X' :: r => scanRadix 16 isHexDigit r
  | '0' :: 'o' :: r | '0' :: 'O' :: r => scanRadix 8 (fun c => '0' ≤ c && c ≤ '7') r
  | '0' :: 'b' :: r | '0' :: 'B' :: r => scanRadix 2 (fun c => c == '0' || c == '1') r
  | _ => scanDecimal cs

/-! ## Quoted texts -/

/-- The characters up to an unescaped quote, and what follows it. A newline must be escaped. -/
def scanShort (quote : Char) : List Char → Option (List Char × List Char)
  | [] => none
  | '\\' :: c :: cs => (scanShort quote cs).map fun (body, rest) => ('\\' :: c :: body, rest)
  | c :: cs =>
    if c = quote then some ([], cs)
    else if c = '\n' then none
    else (scanShort quote cs).map fun (body, rest) => (c :: body, rest)

/-- The characters up to three unescaped quotes in a row, and what follows them. -/
def scanLong (quote : Char) : List Char → Option (List Char × List Char)
  | [] => none
  | '\\' :: c :: cs => (scanLong quote cs).map fun (body, rest) => ('\\' :: c :: body, rest)
  | c :: cs =>
    if c = quote && cs.take 2 == [quote, quote] then some ([], cs.drop 2)
    else (scanLong quote cs).map fun (body, rest) => (c :: body, rest)

/-- The body of a quoted text that starts with the quote `quote`, from the character after it on. -/
def scanBody (quote : Char) (cs : List Char) : Option (List Char × List Char) :=
  if cs.take 2 == [quote, quote] then scanLong quote (cs.drop 2) else scanShort quote cs

/-- Whether a character is a quote. -/
def isQuote (c : Char) : Bool :=
  c == '\'' || c == '"'

/-- What the letters in front of a quote say, if they are allowed there. -/
def quotedMark (letters : List Char) : Option Quoted :=
  match letters.map Char.toLower with
  | [] => some ⟨false, false, false, false, []⟩
  | ['b'] => some ⟨true, false, false, false, []⟩
  | ['r'] => some ⟨false, true, false, false, []⟩
  | ['f'] => some ⟨false, false, true, false, []⟩
  | ['u'] => some ⟨false, false, false, letters == ['u'], []⟩
  | ['b', 'r'] | ['r', 'b'] => some ⟨true, true, false, false, []⟩
  | ['f', 'r'] | ['r', 'f'] => some ⟨false, true, true, false, []⟩
  | _ => none

/-- Where a quoted text starts: its mark, its quote, and what follows the quote. -/
def quotedStart (cs : List Char) : Option (Quoted × Char × List Char) :=
  let letters := (cs.take 2).takeWhile fun c => !isQuote c
  match cs.drop letters.length with
  | c :: rest => if isQuote c then (quotedMark letters).map fun mark => (mark, c, rest) else none
  | [] => none

/-! ## Operators -/

/-- The operators and delimiters, longest first. -/
def operators : List String :=
  ["**=", "//=", ">>=", "<<=", "...", "!=", "%=", "&=", "**", "*=", "+=", "-=", "->", "//", "/=", ":=", "<<",
   "<=", "<>", "==", ">=", ">>", "@=", "^=", "|=", "(", ")", "[", "]", "\x7b", "\x7d", ":", ",", ";", "+", "-", "*",
   "/", "|", "&", "<", ">", "=", ".", "%", "~", "^", "@"]

/-- The longest operator at the start of the characters. -/
def scanOperator (cs : List Char) : Option (String × List Char) :=
  (operators.find? fun o => o.toList.isPrefixOf cs).map fun o => (o, cs.drop o.length)

/-- The closing partner of an opening bracket. -/
def closing (c : String) : Option String :=
  match c with
  | "(" => some ")"
  | "[" => some "]"
  | "\x7b" => some "\x7d"
  | _ => none

/-! ## Layout -/

/-- The white space in front of a line: its width with tab stops at every eighth column, its width with tabs as
single columns, the line it ends on, and the rest. A form feed starts the count again; a backslash at the end
of a line fixes the width at what it was there. -/
def indentation (width blind fixed line : Nat) : List Char → Option (Nat × Nat × Nat × List Char)
  | ' ' :: cs => indentation (width + 1) (blind + 1) fixed line cs
  | '\t' :: cs => indentation ((width / 8 + 1) * 8) (blind + 1) fixed line cs
  | '\x0c' :: cs => indentation 0 0 fixed line cs
  | '\\' :: '\n' :: c :: cs => indentation width blind (if fixed = 0 then width else fixed) (line + 1) (c :: cs)
  | '\\' :: _ => none
  | cs => if fixed = 0 then some (width, blind, line, cs) else some (fixed, fixed, line, cs)

/-- The state of the lexer. -/
structure Scan where
  /-- The characters not yet read. -/
  rest : List Char
  /-- The line of the next character. -/
  line : Nat
  /-- The widths of the open blocks, innermost first, with tab stops and without. -/
  blocks : List (Nat × Nat)
  /-- The closing brackets that are waited for, innermost first. -/
  brackets : List String
  /-- The tokens so far, last first. -/
  out : List Token

/-- A token on the current line. -/
def Scan.emit (s : Scan) (kind : Kind) (rest : List Char) : Scan :=
  { s with rest := rest, out := ⟨kind, s.line, s.line⟩ :: s.out }

/-- The most blocks that may be open, the text itself included. -/
def maxBlocks : Nat := 100

/-- The most brackets that may be open. -/
def maxBrackets : Nat := 200

/-- Closes the blocks that are wider than `width`. -/
def Scan.dedent (s : Scan) (width : Nat) : List (Nat × Nat) → Scan
  | [] => { s with blocks := [] }
  | block :: blocks =>
    if width < block.1 then (s.emit .dedent s.rest).dedent width blocks
    else { s with blocks := block :: blocks }

/-- Opens or closes blocks in front of a line whose white space has the given widths. Both widths have to agree
with the open blocks. -/
def Scan.layout (s : Scan) (width blind : Nat) : Option Scan :=
  match s.blocks with
  | [] => none
  | (top, topBlind) :: _ =>
    if width = top then
      if blind = topBlind then some s else none
    else if top < width then
      if s.blocks.length < maxBlocks && topBlind < blind then
        some { s.emit .indent s.rest with blocks := (width, blind) :: s.blocks }
      else none
    else
      let closed := s.dedent width s.blocks
      if closed.blocks.head? = some (width, blind) then some closed else none

/-- The number of newlines in some characters. -/
def newlines (cs : List Char) : Nat :=
  cs.count '\n'

/-- One operator, with its bracket opened or closed. -/
def Scan.operator (s : Scan) : Option Scan := do
  let (o, rest) ← scanOperator s.rest
  let next := s.emit (.op o) rest
  match closing o with
  | some close =>
    guard (s.brackets.length < maxBrackets)
    return { next with brackets := close :: s.brackets }
  | none =>
    if o == ")" || o == "]" || o == "\x7d" then
      match s.brackets with
      | open_ :: others =>
        guard (open_ == o)
        return { next with brackets := others }
      | [] => none
    else return next

/-- One quoted text, whose mark has been read. -/
def Scan.quoted (s : Scan) (mark : Quoted) (quote : Char) (cs : List Char) : Option Scan := do
  let (body, rest) ← scanBody quote cs
  let last := s.line + newlines body
  return { s with
    rest := rest
    line := last
    out := ⟨.quoted { mark with body := body }, s.line, last⟩ :: s.out }

/-- One identifier or reserved word. Beyond ASCII, the characters have to form an identifier. -/
def Scan.word (s : Scan) : Option Scan := do
  let word := s.rest.takeWhile isWordChar
  guard (word.all (·.toNat < 128) || Text.isIdentifier word)
  return s.emit (.word (String.ofList word)) (s.rest.dropWhile isWordChar)

/-- One number. -/
def Scan.number (s : Scan) : Option Scan := do
  let (value, rest) ← scanNumber s.rest
  return s.emit (.number value) rest

/-- What stands next inside a line: the state after it, and whether a new logical line starts there. -/
def Scan.inLine (s : Scan) : Option (Scan × Bool) :=
  match s.rest with
  | [] => none
  | ' ' :: cs | '\t' :: cs | '\x0c' :: cs => some ({ s with rest := cs }, false)
  | '#' :: cs => some ({ s with rest := cs.dropWhile (· != '\n') }, false)
  | '\n' :: cs =>
    if s.brackets.isEmpty then some ({ s.emit .newline cs with line := s.line + 1 }, true)
    else some ({ s with rest := cs, line := s.line + 1 }, false)
  | '\\' :: '\n' :: c :: cs => some ({ s with rest := c :: cs, line := s.line + 1 }, false)
  | c :: cs =>
    match quotedStart s.rest with
    | some (mark, quote, rest) => (s.quoted mark quote rest).map (·, false)
    | none =>
      if c.isDigit || (c == '.' && (cs.head?.any Char.isDigit)) then s.number.map (·, false)
      else if isWordChar c then s.word.map (·, false)
      else s.operator.map (·, false)

/-- The tokens of the rest, at the start of a logical line or inside one. The first argument bounds the number of
steps. -/
def Scan.run : Nat → Bool → Scan → Option (List Token)
  | 0, _, _ => none
  | steps + 1, true, s => do
    let (width, blind, line, cs) ← indentation 0 0 0 s.line s.rest
    let here := { s with rest := cs, line := line }
    match cs with
    | [] => return (((here.dedent 0 s.blocks).emit .finish []).out).reverse
    | '\n' :: rest => run steps true { here with rest := rest, line := line + 1 }
    | '#' :: rest => run steps true { here with rest := (rest.dropWhile (· != '\n')).drop 1, line := line + 1 }
    | _ => (← here.layout width blind).run steps false
  | steps + 1, false, s => do
    let (next, starts) ← s.inLine
    next.run steps starts

/-- The characters with a newline at their end. -/
def withFinalNewline (cs : List Char) : List Char :=
  if cs.getLast? = some '\n' || cs.isEmpty then cs else cs ++ ['\n']

/-- All tokens of a text, or nothing if it cannot be read. -/
def tokens (text : List Char) : Option (List Token) :=
  let cs := withFinalNewline text
  if cs.contains (Char.ofNat 0) then none
  else Scan.run (2 * cs.length + 3) true ⟨cs, 1, [(0, 0)], [], []⟩

end CodeAtlas.Source
