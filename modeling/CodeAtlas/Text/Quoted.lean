import CodeAtlas.Text.Printable

/-!
# Quoted texts

A text is quoted with single quotes, or with double quotes if that saves escapes. What is not printable is written as
an escape. Texts are given by their code points.

## Main definitions

* `quoteText`: the quoted form of a text.
* `quoted`: the quoted form of a string.
-/

namespace CodeAtlas.Text

/-- A number in base sixteen, with zeros in front up to `width` digits. -/
def hexDigits (width n : Nat) : List Char :=
  let digits := Nat.toDigits 16 n
  List.replicate (width - digits.length) '0' ++ digits

/-- The escape of a code point. -/
def escapeCode (n : Nat) : List Char :=
  if n = '\\'.toNat then ['\\', '\\']
  else if n = 9 then ['\\', 't']
  else if n = 10 then ['\\', 'n']
  else if n = 13 then ['\\', 'r']
  else if n < 0x100 then '\\' :: 'x' :: hexDigits 2 n
  else if n < 0x10000 then '\\' :: 'u' :: hexDigits 4 n
  else '\\' :: 'U' :: hexDigits 8 n

/-- The quote for a text: the single one, unless the text has single quotes and no double ones. -/
def chooseQuote (value : List Nat) : Char :=
  if value.contains '\''.toNat && !value.contains '"'.toNat then '"' else '\''

/-- A text between quotes, without the quotes. -/
def quotedChars (quote : Char) (value : List Nat) : List Char :=
  value.flatMap fun n =>
    if n = quote.toNat then ['\\', quote]
    else if n = '\\'.toNat || !isPrintable n then escapeCode n
    else [Char.ofNat n]

/-- The quoted form of a text. -/
def quoteText (value : List Nat) : List Char :=
  let quote := chooseQuote value
  quote :: quotedChars quote value ++ [quote]

/-- The quoted form of a string. -/
def quoted (s : String) : String :=
  String.ofList (quoteText (s.toList.map Char.toNat))

end CodeAtlas.Text
