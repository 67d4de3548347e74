import CodeAtlas.Language.Walk
import CodeAtlas.Tree.Call
import CodeAtlas.Tree.Comment

/-!
# Declarations of Rust

Functions, structures, enumerations, traits with their methods, implementation blocks with theirs, and all of these
in modules.

## Main definitions

* `Rust.implementedType?`, `Rust.implementedTrait?`: the two names in the header of an implementation block.
* `Rust.rule`: what is found at a node.
-/

namespace CodeAtlas.Language.Rust

/-- Whether a node is a keyword, by its kind or by its text. -/
def isKeyword (word : String) (t : Tree) : Bool :=
  t.kind == word || t.text == word

/-- A node that says who can see a declaration. -/
def isVisibility (t : Tree) : Bool :=
  t.kind == "visibility_modifier" && !t.text.isEmpty

/-- The words in front of a function: its visibility, and then the keywords in a fixed order. Of several
visibilities the last one counts. A node counts as the first of `async`, `const` and `unsafe` that it is. -/
def functionWords (t : Tree) : List String :=
  let visibility := ((t.children.filter isVisibility).map Tree.text).getLast?.toList
  let others := t.children.filter fun c => !isVisibility c
  let isAsync := others.any (isKeyword "async")
  let afterAsync := others.filter fun c => !isKeyword "async" c
  let isConst := afterAsync.any (isKeyword "const")
  let afterConst := afterAsync.filter fun c => !isKeyword "const" c
  let isGuarded := afterConst.any (isKeyword "unsafe")
  visibility ++ (if isConst then ["const"] else []) ++ (if isAsync then ["async"] else []) ++
    (if isGuarded then ["unsafe"] else [])

/-- The signature of a function. -/
def functionSignature (t : Tree) (name : String) : String :=
  let result := match t.childText? "return_type" with
    | some type => " " ++ type
    | none => ""
  wordsBefore (functionWords t) ++ "fn " ++ name ++ t.childTextD "parameters" "()" ++ result

/-- The function of a function item. -/
def function (file : File) (scope : Scope) (before : List Tree) (t : Tree) : List Entity :=
  match t.childText? "identifier" with
  | some name =>
    let declared : Declared :=
      { node := t, name := name, kind := Entity.functionKind scope.parent, signature := functionSignature t name
        docstring := Comment.rustRun before, calls := Calls.inBody Calls.fieldOrPath "block" t }
    [declared.entity file scope.parent]
  | none => []

/-- A type declaration, which is never inside another declaration. -/
def typeItem (file : File) (before : List Tree) (t : Tree) (kind : EntityKind) : Option Entity := do
  let name ← t.childText? "type_identifier"
  let declared : Declared :=
    { node := t, name := name, kind := kind, signature := kind.label ++ " " ++ name
      docstring := Comment.rustRun before }
  return declared.entity file none

/-- The name of a type that stands in the header of an implementation block. -/
def headerType? (t : Tree) : Option String :=
  if t.kind == "type_identifier" then t.text?
  else if t.kind == "generic_type" then t.childText? "type_identifier"
  else none

/-- The implemented type among the nodes of a header: the first type after `for`, or else the first type of all. -/
def typeFrom (seenFor : Bool) (first : Option String) : List Tree → Option String
  | [] => first
  | t :: ts =>
    if t.text == "for" then typeFrom true first ts
    else
      match headerType? t with
      | some name => if seenFor then some name else typeFrom false (first.or (some name)) ts
      | none => typeFrom seenFor first ts

/-- The type that an implementation block implements something for. -/
def implementedType? (t : Tree) : Option String :=
  typeFrom false none t.children

/-- The implemented trait among the nodes of a header: the first plain type, if `for` comes at some point. -/
def traitFrom (first : Option String) : List Tree → Option String
  | [] => none
  | t :: ts =>
    if t.kind == "type_identifier" && !t.text.isEmpty then traitFrom (first.or (some t.text)) ts
    else if t.text == "for" then first
    else traitFrom first ts

/-- The trait that an implementation block implements. -/
def implementedTrait? (t : Tree) : Option String :=
  traitFrom none t.children

/-- The entity of an implementation block. Its identifier tells blocks of one type apart by their traits. -/
def implementation? (file : File) (t : Tree) : Option Entity := do
  let type ← implementedType? t
  match implementedTrait? t with
  | some trait =>
    let declared : Declared :=
      { node := t, name := type ++ "::" ++ trait, kind := .implementation
        signature := "impl " ++ trait ++ " for " ++ type, bases := [trait] }
    return declared.entity file none
  | none =>
    let declared : Declared := { node := t, name := type, kind := .implementation, signature := "impl " ++ type }
    return { declared.entity file none with id := Entity.makeId file.path none (type ++ "::impl") }

/-- A container that may not be there. -/
def optionalContainer (entity? : Option Entity) (level : Level) : Found :=
  match entity? with
  | some e => .container e "declaration_list" level
  | none => .nothing

/-- What is found at the level of a file or a module. -/
def fileRule (file : File) : Rule := fun scope before t =>
  if t.kind == "function_item" then .only (function file scope before t)
  else if t.kind == "struct_item" then .only (typeItem file before t .struct).toList
  else if t.kind == "enum_item" then .only (typeItem file before t .enumeration).toList
  else if t.kind == "trait_item" then optionalContainer (typeItem file before t .trait) .promises
  else if t.kind == "impl_item" then optionalContainer (implementation? file t) .members
  else if t.kind == "mod_item" then .into "declaration_list" .top
  else .nothing

/-- What is found at a node. Traits also have functions without a body. -/
def rule (file : File) : Rule := fun scope before t =>
  match scope.level with
  | .file => fileRule file scope before t
  | .members => if t.kind == "function_item" then .only (function file scope before t) else .nothing
  | .promises =>
    if ["function_item", "function_signature_item"].contains t.kind then .only (function file scope before t)
    else .nothing

end CodeAtlas.Language.Rust
