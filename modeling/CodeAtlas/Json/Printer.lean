import CodeAtlas.Decimal.Written
import CodeAtlas.Json.Value

/-!
# Written form of JSON values

The text of a value has only ASCII characters: all others, and the controls, are written as escapes, those
beyond the basic plane as a pair of surrogates. The indented form puts every item of a list and every field of
an object on a line of its own.

## Main definitions

* `Json.indented`: the form with an indentation of two blanks per level.
* `Json.compact`: the form on one line.
-/

namespace CodeAtlas.Json

/-- A hexadecimal digit in lower case. -/
def hexDigit (n : Nat) : Char :=
  if n < 10 then Char.ofNat (48 + n) else Char.ofNat (87 + n)

/-- The escape of a code unit of 16 bits. -/
def unitEscape (n : Nat) : List Char :=
  ['\\', 'u', hexDigit (n / 4096 % 16), hexDigit (n / 256 % 16), hexDigit (n / 16 % 16), hexDigit (n % 16)]

/-- The characters that stand for a character inside a text. -/
def escapeChar (c : Char) : List Char :=
  if c = '"' then ['\\', '"']
  else if c = '\\' then ['\\', '\\']
  else if c = '\n' then ['\\', 'n']
  else if c = '\r' then ['\\', 'r']
  else if c = '\t' then ['\\', 't']
  else if c = '\x08' then ['\\', 'b']
  else if c = '\x0c' then ['\\', 'f']
  else if 0x20 ≤ c.toNat ∧ c.toNat < 0x7f then [c]
  else if c.toNat < 0x10000 then unitEscape c.toNat
  else
    let n := c.toNat - 0x10000
    unitEscape (0xd800 + n / 1024) ++ unitEscape (0xdc00 + n % 1024)

/-- The characters that stand for some characters inside a text. -/
def escapeChars : List Char → List Char
  | [] => []
  | c :: cs => escapeChar c ++ escapeChars cs

/-- A text in quotes. -/
def quoted (s : String) : List Char :=
  '"' :: escapeChars s.toList ++ ['"']

/-- The digits of a whole number. -/
def intDigits (n : Int) : List Char :=
  if n < 0 then '-' :: Nat.toDigits 10 n.natAbs else Nat.toDigits 10 n.natAbs

/-- The form of doubles: as in reports, with names for what is not finite. -/
def numberFormat : Decimal.Format :=
  { Decimal.plain with infinity := "Infinity", notANumber := "NaN" }

/-- The characters of a value that is neither a list nor an object. -/
def scalarChars : Json → List Char
  | .null => ['n', 'u', 'l', 'l']
  | .bool true => ['t', 'r', 'u', 'e']
  | .bool false => ['f', 'a', 'l', 's', 'e']
  | .int n => intDigits n
  | .real x => (numberFormat.write x).toList
  | .str s => quoted s
  | _ => []

/-- A new line with the indentation of a level. -/
def newLine (level : Nat) : List Char :=
  '\n' :: List.replicate (2 * level) ' '

mutual

/-- The indented form of a value at a level. -/
def indentedChars (level : Nat) : Json → List Char
  | .arr [] => ['[', ']']
  | .arr (v :: vs) =>
    '[' :: (newLine (level + 1) ++ indentedChars (level + 1) v) ++ (indentedItems (level + 1) vs ++
      (newLine level ++ [']']))
  | .obj [] => ['\x7b', '\x7d']
  | .obj ((k, v) :: fs) =>
    '\x7b' :: (newLine (level + 1) ++ quoted k) ++ (':' :: ' ' :: indentedChars (level + 1) v) ++
      (indentedFields (level + 1) fs ++ (newLine level ++ ['\x7d']))
  | v => scalarChars v

/-- The items of a list after its first one. -/
def indentedItems (level : Nat) : List Json → List Char
  | [] => []
  | v :: vs => ',' :: (newLine level ++ indentedChars level v) ++ indentedItems level vs

/-- The fields of an object after its first one. -/
def indentedFields (level : Nat) : List (String × Json) → List Char
  | [] => []
  | (k, v) :: fs =>
    ',' :: (newLine level ++ quoted k) ++ (':' :: ' ' :: indentedChars level v) ++ indentedFields level fs

end

mutual

/-- The form of a value on one line. -/
def compactChars : Json → List Char
  | .arr [] => ['[', ']']
  | .arr (v :: vs) => '[' :: compactChars v ++ (compactItems vs ++ [']'])
  | .obj [] => ['\x7b', '\x7d']
  | .obj ((k, v) :: fs) => '\x7b' :: quoted k ++ (':' :: compactChars v) ++ (compactFields fs ++ ['\x7d'])
  | v => scalarChars v

/-- The items of a list after its first one, on one line. -/
def compactItems : List Json → List Char
  | [] => []
  | v :: vs => ',' :: compactChars v ++ compactItems vs

/-- The fields of an object after its first one, on one line. -/
def compactFields : List (String × Json) → List Char
  | [] => []
  | (k, v) :: fs => ',' :: quoted k ++ (':' :: compactChars v) ++ compactFields fs

end

/-- The text of a value, with an indentation of two blanks per level. -/
def indented (v : Json) : String :=
  String.ofList (indentedChars 0 v)

/-- The text of a value on one line. -/
def compact (v : Json) : String :=
  String.ofList (compactChars v)

end CodeAtlas.Json
