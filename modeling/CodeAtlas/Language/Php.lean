import CodeAtlas.Language.Walk
import CodeAtlas.Text.Blank
import CodeAtlas.Text.Cut
import CodeAtlas.Tree.Call
import CodeAtlas.Tree.Comment

/-!
# Declarations of PHP

Functions, classes, interfaces and traits with their methods, and enumerations, also inside name spaces.

## Main definitions

* `Php.rule`: what is found at a node.
-/

namespace CodeAtlas.Language.Php

open Text

/-- The names in the first clause of a kind. -/
def clauseNames (clause : String) (t : Tree) : List String :=
  match t.child? clause with
  | some c => c.childTexts ["name", "qualified_name"]
  | none => []

/-- The parameters and the type of the result. -/
def callShape (t : Tree) : String :=
  let kinds := ["optional_type", "named_type", "primitive_type", "union_type", "intersection_type"]
  let result := match t.firstText? kinds with
    | some type => ": " ++ type
    | none => ""
  t.childTextD "formal_parameters" "()" ++ result

/-- The signature of a method. -/
def methodSignature (t : Tree) (name : String) : String :=
  let modifiers := t.childTexts ["visibility_modifier", "static_modifier", "final_modifier", "abstract_modifier"]
  strip (wordsBefore modifiers ++ "function " ++ name ++ callShape t)

/-- The class that a class extends. -/
def base? (t : Tree) : Option String :=
  (clauseNames "base_clause" t).head?

/-- The interfaces that a class implements. -/
def implemented (t : Tree) : List String :=
  clauseNames "class_interface_clause" t

/-- The signature of a class. -/
def classSignature (t : Tree) (name : String) : String :=
  let extended := match base? t with
    | some base => " extends " ++ base
    | none => ""
  let names := implemented t
  strip (wordsBefore (t.childTexts ["final_modifier", "abstract_modifier"]) ++ "class " ++ name ++ extended ++
    (if names.isEmpty then "" else " implements " ++ joinWith ", " names))

/-- The signature of an interface. -/
def interfaceSignature (t : Tree) (name : String) : String :=
  let names := clauseNames "base_clause" t
  "interface " ++ name ++ (if names.isEmpty then "" else " extends " ++ joinWith ", " names)

/-- A declaration with its documentation, unless it has no name. -/
def declared? (file : File) (parent : Option String) (before : List Tree) (t : Tree) (kind : String → EntityKind)
    (signature : String → String) (calls bases : List String) : Option Entity := do
  let name ← t.childText? "name"
  let declared : Declared :=
    { node := t, name := name, kind := kind name, signature := signature name
      docstring := Comment.phpBlock before, calls := calls, bases := bases }
  return declared.entity file parent

/-- The names called in a body. -/
def calls (t : Tree) : List String :=
  Calls.inBody (Calls.named ["function_call_expression", "member_call_expression", "scoped_call_expression"] "name")
    "compound_statement" t

/-- A declaration with methods. -/
def container (entity? : Option Entity) : Found :=
  match entity? with
  | some e => .container e "declaration_list" .members
  | none => .nothing

/-- What is found at the level of a file or a name space. -/
def fileRule (file : File) : Rule := fun scope before t =>
  if t.kind == "function_definition" then
    .only (declared? file scope.parent before t (fun _ => Entity.functionKind scope.parent)
      (fun name => "function " ++ name ++ callShape t) (calls t) []).toList
  else if t.kind == "class_declaration" then
    container (declared? file scope.parent before t (fun _ => .classType) (classSignature t) []
      ((base? t).toList ++ implemented t))
  else if t.kind == "interface_declaration" then
    container (declared? file scope.parent before t (fun _ => .interface) (interfaceSignature t) []
      (clauseNames "base_clause" t))
  else if t.kind == "trait_declaration" then
    container (declared? file scope.parent before t (fun _ => .trait) ("trait " ++ ·) [] [])
  else if t.kind == "enum_declaration" then
    .only (declared? file none before t (fun _ => .enumeration) ("enum " ++ ·) [] []).toList
  else if t.kind == "namespace_definition" then .into "compound_statement" scope
  else if ["program", "compound_statement", "php_tag"].contains t.kind then .through scope
  else .nothing

/-- The kind of a method by its name. -/
def methodKind (name : String) : EntityKind :=
  if name == "__construct" then .constructor else .method

/-- What is found at a node. -/
def rule (file : File) : Rule := fun scope before t =>
  match scope.level with
  | .file => fileRule file scope before t
  | _ =>
    if t.kind == "method_declaration" then
      .only (declared? file scope.parent before t methodKind (methodSignature t) (calls t) []).toList
    else .nothing

end CodeAtlas.Language.Php
