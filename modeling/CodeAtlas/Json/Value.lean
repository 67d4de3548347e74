/-!
# JSON values

## Main definitions

* `Json`: values. The fields of an object keep their order.
* `Json.field?`: the value of a field.
-/

namespace CodeAtlas

/-- A JSON value. Whole numbers have any size; all other numbers are doubles. -/
inductive Json where
  /-- The absent value. -/
  | null
  /-- A truth value. -/
  | bool (value : Bool)
  /-- A whole number. -/
  | int (value : Int)
  /-- A double. -/
  | real (value : Float)
  /-- A text. -/
  | str (value : String)
  /-- A list. -/
  | arr (items : List Json)
  /-- An object, with its fields in order. -/
  | obj (fields : List (String × Json))
  deriving Inhabited

namespace Json

/-- A text, or the absent value. -/
def ofText? : Option String → Json
  | some s => .str s
  | none => .null

/-- A whole number, or the absent value. -/
def ofInt? : Option Int → Json
  | some n => .int n
  | none => .null

/-- A natural number. -/
def ofNat (n : Nat) : Json := .int n

/-- A list of texts. -/
def ofTexts (texts : List String) : Json := .arr (texts.map .str)

/-- The value of a field of an object. -/
def field? (key : String) : Json → Option Json
  | .obj fields => fields.lookup key
  | _ => none

/-- The text, if the value is one. -/
def text? : Json → Option String
  | .str s => some s
  | _ => none

/-- The whole number, if the value is one. -/
def int? : Json → Option Int
  | .int n => some n
  | _ => none

/-- The items, if the value is a list. -/
def items? : Json → Option (List Json)
  | .arr items => some items
  | _ => none

end Json

end CodeAtlas
