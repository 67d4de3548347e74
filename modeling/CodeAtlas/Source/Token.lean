/-!
# Tokens of Python source text

The words, numbers, quoted texts, operators and layout marks that a source text is made of.

## Main definitions

* `Number`, `Quoted`: the value of a number token and the raw form of a quoted one.
* `Token`: a token with the lines it covers.
* `isKeyword`: the reserved words.
-/

namespace CodeAtlas.Source

/-- The value of a number token. -/
inductive Number where
  /-- A whole number. -/
  | whole (value : Nat)
  /-- A number with a point or an exponent. -/
  | real (value : Float)
  /-- An imaginary number, by its imaginary part. -/
  | imaginary (value : Float)

/-- A quoted text as it stands in the source: what its letters in front say, and the characters between the
quotes. -/
structure Quoted where
  /-- The text stands for bytes. -/
  isBytes : Bool
  /-- Backslashes stand for themselves. -/
  isRaw : Bool
  /-- The text has replacement fields. -/
  isFormat : Bool
  /-- The text is marked with a lower-case `u`. -/
  isMarked : Bool
  /-- The characters between the quotes. -/
  body : List Char

/-- What a token is. -/
inductive Kind where
  /-- An identifier or a reserved word. -/
  | word (text : String)
  /-- A number. -/
  | number (value : Number)
  /-- A quoted text. -/
  | quoted (literal : Quoted)
  /-- An operator or a delimiter. -/
  | op (text : String)
  /-- The end of a logical line. -/
  | newline
  /-- The start of a deeper block. -/
  | indent
  /-- The end of a block. -/
  | dedent
  /-- The end of the text. -/
  | finish

/-- A token with the lines of its first and its last character, counted from one. -/
structure Token where
  /-- What the token is. -/
  kind : Kind
  /-- The line of its first character. -/
  line : Nat
  /-- The line of its last character. -/
  lastLine : Nat

/-- Whether a token only marks layout. -/
def Kind.isLayout : Kind → Bool
  | .newline | .indent | .dedent | .finish => true
  | _ => false

/-- The reserved words. -/
def keywords : List String :=
  ["False", "None", "True", "and", "as", "assert", "async", "await", "break", "class", "continue", "def",
   "del", "elif", "else", "except", "finally", "for", "from", "global", "if", "import", "in", "is",
   "lambda", "nonlocal", "not", "or", "pass", "raise", "return", "try", "while", "with", "yield"]

/-- Whether a word is reserved. -/
def isKeyword (word : String) : Bool :=
  keywords.contains word

end CodeAtlas.Source
