/-!
# Entities

An entity is a declaration found in a source file: a function, a class, a method, and so on.

## Main definitions

* `EntityKind`: the kinds of entities, with the label of each.
* `Entity`: a declaration with its place, its signature, what it calls and what it extends.
-/

namespace CodeAtlas

/-- The kinds of declarations. -/
inductive EntityKind where
  /-- A function outside of any class. -/
  | function
  /-- A function inside a class or a similar container. -/
  | method
  /-- A constructor. -/
  | constructor
  /-- A class, a record, or a module that acts as one. -/
  | classType
  /-- An interface. -/
  | interface
  /-- A structure. -/
  | struct
  /-- A trait. -/
  | trait
  /-- An implementation block. -/
  | implementation
  /-- An enumeration. -/
  | enumeration
  /-- A type alias. -/
  | typeAlias
  deriving DecidableEq, Repr

/-- The label of a kind in reports and in the store. -/
def EntityKind.label : EntityKind → String
  | .function => "function"
  | .method => "method"
  | .constructor => "constructor"
  | .classType => "class"
  | .interface => "interface"
  | .struct => "struct"
  | .trait => "trait"
  | .implementation => "impl"
  | .enumeration => "enum"
  | .typeAlias => "type"

/-- A declaration found in a source file. -/
structure Entity where
  /-- The identifier, made of the path of the file and the names of the enclosing declarations. -/
  id : String
  /-- The name. -/
  name : String
  /-- The kind. -/
  kind : EntityKind
  /-- The path of the file. -/
  path : String
  /-- The first line, counted from one. -/
  firstLine : Nat
  /-- The last line, counted from one. -/
  lastLine : Nat
  /-- The signature. -/
  signature : String
  /-- The documentation. -/
  docstring : Option String
  /-- The identifier of the enclosing declaration. -/
  parent : Option String
  /-- The names it calls, each once. -/
  calls : List String
  /-- The names it extends or implements. -/
  bases : List String
  /-- The language of the file. -/
  language : String
  deriving DecidableEq, Repr

/-- The identifier of a declaration: below its parent, or at the top of its file. -/
def Entity.makeId (path : String) (parent : Option String) (name : String) : String :=
  match parent with
  | some id => id ++ "." ++ name
  | none => path ++ ":" ++ name

/-- The kind of a function, which depends on whether something encloses it. -/
def Entity.functionKind (parent : Option String) : EntityKind :=
  if parent.isSome then .method else .function

end CodeAtlas
