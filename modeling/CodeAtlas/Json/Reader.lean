import CodeAtlas.Decimal.Round
import CodeAtlas.Json.Value

/-!
# Reading JSON texts

## Main definitions

* `Json.read?`: the value that a text writes, if it writes exactly one.
-/

namespace CodeAtlas.Json

/-- The value of a hexadecimal digit. -/
def hexValue (c : Char) : Option Nat :=
  if '0' ≤ c ∧ c ≤ '9' then some (c.toNat - 48)
  else if 'a' ≤ c ∧ c ≤ 'f' then some (c.toNat - 87)
  else if 'A' ≤ c ∧ c ≤ 'F' then some (c.toNat - 55)
  else none

/-- The value of four hexadecimal digits. -/
def hexUnit (a b c d : Char) : Option Nat := do
  let a ← hexValue a
  let b ← hexValue b
  let c ← hexValue c
  let d ← hexValue d
  return ((a * 16 + b) * 16 + c) * 16 + d

/-- The character of a one-letter escape. -/
def shortEscape (c : Char) : Option Char :=
  if c = '"' then some '"'
  else if c = '\\' then some '\\'
  else if c = '/' then some '/'
  else if c = 'n' then some '\n'
  else if c = 'r' then some '\r'
  else if c = 't' then some '\t'
  else if c = 'b' then some '\x08'
  else if c = 'f' then some '\x0c'
  else none

/-- The character of a pair of surrogates. -/
def joinUnits (high low : Nat) : Char :=
  Char.ofNat (0x10000 + (high - 0xd800) * 1024 + (low - 0xdc00))

/-- The rest of a text after its opening quote, and what follows it. -/
def readText : List Char → Option (List Char × List Char)
  | [] => none
  | '"' :: cs => some ([], cs)
  | '\\' :: 'u' :: a :: b :: c :: d :: cs => do
    let unit ← hexUnit a b c d
    if 0xd800 ≤ unit ∧ unit < 0xdc00 then
      match cs with
      | '\\' :: 'u' :: a' :: b' :: c' :: d' :: cs' =>
        let low ← hexUnit a' b' c' d'
        let (rest, after) ← readText cs'
        return (joinUnits unit low :: rest, after)
      | _ => none
    else
      let (rest, after) ← readText cs
      return (Char.ofNat unit :: rest, after)
  | '\\' :: c :: cs => do
    let e ← shortEscape c
    let (rest, after) ← readText cs
    return (e :: rest, after)
  | c :: cs => do
    let (rest, after) ← readText cs
    return (c :: rest, after)

/-- The value of decimal digits. -/
def digitsValue (ds : List Char) : Nat :=
  ds.foldl (fun n c => n * 10 + (c.toNat - 48)) 0

/-- The exponent at the start of some characters, if there is one, and what follows. -/
def readExponent : List Char → Option (Int × List Char)
  | e :: cs =>
    if e = 'e' ∨ e = 'E' then
      let (negative, digits) := match cs with
        | '-' :: ds => (true, ds)
        | '+' :: ds => (false, ds)
        | ds => (false, ds)
      let size : Int := digitsValue (digits.takeWhile Char.isDigit)
      some (if negative then -size else size, digits.dropWhile Char.isDigit)
    else none
  | [] => none

/-- A number without its sign. -/
def readUnsigned (negative : Bool) (cs : List Char) : Option (Json × List Char) :=
  let whole := cs.takeWhile Char.isDigit
  let after := cs.dropWhile Char.isDigit
  if whole.isEmpty then none
  else
    let (fraction, after') := match after with
      | '.' :: ds => (some (ds.takeWhile Char.isDigit), ds.dropWhile Char.isDigit)
      | _ => (none, after)
    match fraction, readExponent after' with
    | none, none =>
      let n : Int := digitsValue whole
      some (.int (if negative then -n else n), after)
    | _, exponent =>
      let digits := fraction.getD []
      let (shift, rest) := exponent.getD (0, after')
      let value := Decimal.toFloat negative (digitsValue (whole ++ digits)) (shift - digits.length)
      some (.real value, rest)

/-- A number. -/
def readNumber : List Char → Option (Json × List Char)
  | '-' :: cs => readUnsigned true cs
  | cs => readUnsigned false cs

/-- A character between the pieces of a value. -/
def isLayout (c : Char) : Bool :=
  c == ' ' || c == '\n' || c == '\r' || c == '\t'

/-- The characters after the layout. -/
def skipLayout (cs : List Char) : List Char :=
  cs.dropWhile isLayout

mutual

/-- The value at the start of some characters, and what follows; `fuel` bounds the number of pieces. -/
def readValue : Nat → List Char → Option (Json × List Char)
  | 0, _ => none
  | fuel + 1, cs =>
    match skipLayout cs with
    | 'n' :: 'u' :: 'l' :: 'l' :: rest => some (.null, rest)
    | 't' :: 'r' :: 'u' :: 'e' :: rest => some (.bool true, rest)
    | 'f' :: 'a' :: 'l' :: 's' :: 'e' :: rest => some (.bool false, rest)
    | '"' :: rest => do
      let (text, after) ← readText rest
      return (.str (String.ofList text), after)
    | '[' :: rest =>
      match skipLayout rest with
      | ']' :: after => some (.arr [], after)
      | _ => do
        let (first, after) ← readValue fuel rest
        let (others, end') ← readItems fuel after
        return (.arr (first :: others), end')
    | '\x7b' :: rest =>
      match skipLayout rest with
      | '\x7d' :: after => some (.obj [], after)
      | _ => do
        let (first, after) ← readField fuel rest
        let (others, end') ← readFields fuel after
        return (.obj (first :: others), end')
    | rest => readNumber rest

/-- The items of a list after its first one. -/
def readItems : Nat → List Char → Option (List Json × List Char)
  | 0, _ => none
  | fuel + 1, cs =>
    match skipLayout cs with
    | ']' :: rest => some ([], rest)
    | ',' :: rest => do
      let (item, after) ← readValue fuel rest
      let (others, end') ← readItems fuel after
      return (item :: others, end')
    | _ => none

/-- A field of an object. -/
def readField : Nat → List Char → Option ((String × Json) × List Char)
  | 0, _ => none
  | fuel + 1, cs =>
    match skipLayout cs with
    | '"' :: rest => do
      let (key, after) ← readText rest
      match skipLayout after with
      | ':' :: after' =>
        let (value, end') ← readValue fuel after'
        return ((String.ofList key, value), end')
      | _ => none
    | _ => none

/-- The fields of an object after its first one. -/
def readFields : Nat → List Char → Option (List (String × Json) × List Char)
  | 0, _ => none
  | fuel + 1, cs =>
    match skipLayout cs with
    | '\x7d' :: rest => some ([], rest)
    | ',' :: rest => do
      let (field, after) ← readField fuel rest
      let (others, end') ← readFields fuel after
      return (field :: others, end')
    | _ => none

end

/-- The value that some characters write, if they write exactly one. -/
def readChars (cs : List Char) : Option Json := do
  let (value, rest) ← readValue (cs.length + 1) cs
  if (skipLayout rest).isEmpty then return value else none

/-- The value that a text writes, if it writes exactly one. -/
def read? (s : String) : Option Json :=
  readChars s.toList

end CodeAtlas.Json
