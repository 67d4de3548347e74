import CodeAtlas.Language.Walk
import CodeAtlas.Text.Blank
import CodeAtlas.Text.Cut
import CodeAtlas.Tree.Call
import CodeAtlas.Tree.Comment

/-!
# Declarations of C#

Classes, interfaces, structures and records with their methods, constructors, properties and nested types, and
enumerations, also inside name spaces.

## Main definitions

* `CSharp.methodName?`: the name of a method.
* `CSharp.rule`: what is found at a node.
-/

namespace CodeAtlas.Language.CSharp

open Text

/-- The types that a declaration is based on. -/
def bases (t : Tree) : List String :=
  match t.child? "base_list" with
  | some list => list.childTexts ["identifier", "generic_name", "qualified_name"]
  | none => []

/-- The modifiers in front of a declaration. -/
def modifiers (t : Tree) : String :=
  wordsBefore (t.childTexts ["modifier"])

/-- The last identifier before the parameter list, or of all if there is no list. -/
def methodName? (t : Tree) : Option String :=
  let front := t.children.takeWhile (·.kind != "parameter_list")
  ((front.filter (·.kind == "identifier")).filterMap Tree.text?).getLast?

/-- The signature of a type declaration. -/
def typeSignature (keyword : String) (t : Tree) (name : String) : String :=
  let names := bases t
  strip (modifiers t ++ keyword ++ " " ++ name ++ (if names.isEmpty then "" else " : " ++ joinWith ", " names))

/-- The kinds of nodes that are the type of a property or a method. -/
def typeKinds : List String :=
  ["predefined_type", "identifier", "generic_name", "nullable_type", "array_type"]

/-- The signature of a method, which shows the first identifier as its name. -/
def methodSignature (t : Tree) : String :=
  strip (modifiers t ++ (t.firstText? ("void_keyword" :: typeKinds)).getD "" ++ " " ++ t.childTextD "identifier" "" ++
    t.childTextD "parameter_list" "()")

/-- The signature of a constructor. -/
def constructorSignature (t : Tree) (name : String) : String :=
  strip (modifiers t ++ name ++ t.childTextD "parameter_list" "()")

/-- The signature of a property. -/
def propertySignature (t : Tree) (name : String) : String :=
  strip (modifiers t ++ (t.firstText? typeKinds).getD "" ++ " " ++ name ++ " \x7b get; set; \x7d")

/-- A declaration with its documentation, unless it has no name. -/
def declared? (file : File) (parent : Option String) (before : List Tree) (t : Tree) (name? : Option String)
    (kind : EntityKind) (signature : String → String) (calls bases : List String) : Option Entity := do
  let name ← name?
  let declared : Declared :=
    { node := t, name := name, kind := kind, signature := signature name
      docstring := Comment.xmlRun before, calls := calls, bases := bases }
  return declared.entity file parent

/-- The names called in a body. -/
def calls (t : Tree) : List String :=
  Calls.inBody Calls.invoked "block" t

/-- A type with members. -/
def container (file : File) (scope : Scope) (before : List Tree) (t : Tree) (kind : EntityKind) (keyword : String) :
    Found :=
  match declared? file scope.parent before t (t.childText? "identifier") kind (typeSignature keyword t) [] (bases t) with
  | some e => .container e "declaration_list" .members
  | none => .nothing

/-- What is found at a type declaration that can be nested. -/
def typeRule (file : File) : Rule := fun scope before t =>
  if t.kind == "class_declaration" then container file scope before t .classType "class"
  else if t.kind == "interface_declaration" then container file scope before t .interface "interface"
  else if t.kind == "struct_declaration" then container file scope before t .struct "struct"
  else .nothing

/-- What is found at the level of a file or a name space. -/
def fileRule (file : File) : Rule := fun scope before t =>
  if t.kind == "enum_declaration" then
    .only (declared? file none before t (t.childText? "identifier") .enumeration
      (fun name => strip (modifiers t ++ "enum " ++ name)) [] []).toList
  else if t.kind == "record_declaration" then container file scope before t .classType "record"
  else if t.kind == "namespace_declaration" then .into "declaration_list" scope
  else if ["file_scoped_namespace_declaration", "compilation_unit", "declaration_list",
      "global_statement"].contains t.kind then .through scope
  else typeRule file scope before t

/-- What is found among the members of a type. -/
def memberRule (file : File) : Rule := fun scope before t =>
  let first? := t.childText? "identifier"
  if t.kind == "method_declaration" then
    .only (declared? file scope.parent before t (methodName? t) .method (fun _ => methodSignature t)
      (calls t) []).toList
  else if t.kind == "constructor_declaration" then
    .only (declared? file scope.parent before t first? .constructor (constructorSignature t) (calls t) []).toList
  else if t.kind == "property_declaration" then
    .only (declared? file scope.parent before t first? .method (propertySignature t) [] []).toList
  else typeRule file scope before t

/-- What is found at a node. -/
def rule (file : File) : Rule := fun scope =>
  match scope.level with
  | .file => fileRule file scope
  | _ => memberRule file scope

end CodeAtlas.Language.CSharp
