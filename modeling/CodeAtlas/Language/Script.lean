import CodeAtlas.Language.Walk
import CodeAtlas.Text.Cut
import CodeAtlas.Tree.Call
import CodeAtlas.Tree.Comment

/-!
# Declarations of JavaScript and TypeScript

Functions, functions kept in variables, classes with their methods and function fields, interfaces and type
aliases, also behind an export.

## Main definitions

* `Script.rule`: what is found at a node.
-/

namespace CodeAtlas.Language.Script

open Text

/-- The name of a declaration. -/
def name? (t : Tree) : Option String :=
  (t.childText? "identifier").or (t.childText? "type_identifier")

/-- The names called in a function: in its block, or else in all its parts but names, parameters and annotations. -/
def calls (t : Tree) : List String :=
  let rule := Calls.direct "call_expression" "member_expression" "property_identifier"
  if t.hasChild "statement_block" then Calls.inBody rule "statement_block" t
  else
    let parts := t.children.filter fun c => !(["identifier", "formal_parameters", "type_annotation"].contains c.kind)
    (Tree.collectList rule (some t.kind) parts).eraseDups

/-- The parameters of a function. -/
def params (t : Tree) : String :=
  t.childTextD "formal_parameters" "()"

/-- The signature of a function declaration. -/
def functionSignature (t : Tree) (name : String) : String :=
  let keyword := if t.kind == "generator_function_declaration" then "function* " else "function "
  (if t.hasChild "async" then "async " else "") ++ keyword ++ name ++ params t

/-- The parameters of an arrow function, in round brackets. A single parameter can stand without brackets. -/
def arrowParams (t : Tree) : String :=
  let node := (t.child? "formal_parameters").or (t.child? "identifier")
  let text := (node.bind Tree.text?).getD "()"
  if startsWith "(" text then text else "(" ++ text ++ ")"

/-- The signature of a function that is kept under a name. -/
def arrowSignature (name : String) (t : Tree) : String :=
  (if t.hasChild "async" then "async " else "") ++ name ++ " = " ++ arrowParams t ++ " =>"

/-- The function among the children of a variable. -/
def functionValue? (t : Tree) : Option Tree :=
  ((t.child? "arrow_function").or (t.child? "function_expression")).or (t.child? "function")

/-- The functions that a variable declaration keeps. They take lines and documentation from the declaration. -/
def variableFunctions (file : File) (scope : Scope) (before : List Tree) (t : Tree) : List Entity :=
  t.children.filterMap fun c =>
    if c.kind == "variable_declarator" then
      match c.child? "identifier", functionValue? c with
      | some target, some value =>
        let function : Declared :=
          { node := t, name := target.text, kind := Entity.functionKind scope.parent
            signature := arrowSignature target.text value
            docstring := Comment.adjacentBlock before, calls := calls value }
        some (function.entity file scope.parent)
      | _, _ => none
    else none

/-- The first identifier of a clause. -/
def clauseName? (t : Tree) : Option String :=
  t.firstText? ["identifier"]

/-- The class that a class extends. -/
def extended? (t : Tree) : Option String :=
  let heritage := (t.children.filter (·.kind == "class_heritage")).flatMap fun h =>
    h.children.filterMap fun c =>
      if c.kind == "extends_clause" then clauseName? c
      else if c.kind == "identifier" then c.text?
      else none
  heritage.head?.or ((t.child? "extends_clause").bind clauseName?)

/-- The interfaces that a class implements. -/
def implemented (t : Tree) : List String :=
  (t.children.filter (·.kind == "class_heritage")).flatMap fun h =>
    (h.children.filter (·.kind == "implements_clause")).flatMap (·.childTexts ["type_identifier", "identifier"])

/-- The signature of a class. -/
def classSignature (t : Tree) (name : String) : String :=
  match extended? t with
  | some base => "class " ++ name ++ " extends " ++ base
  | none => "class " ++ name

/-- The first child that names a method. -/
def methodNameNode? (t : Tree) : Option Tree :=
  t.children.find? fun c => c.kind == "property_identifier" || c.text == "constructor"

/-- The name of a method. -/
def methodName? (t : Tree) : Option String :=
  ((t.child? "property_identifier").or (methodNameNode? t)).bind Tree.text?

/-- The signature of a method. -/
def methodSignature (t : Tree) : String :=
  (if t.hasChild "static" then "static " else "") ++ (if t.hasChild "async" then "async " else "") ++
    (if t.hasChild "*" then "*" else "") ++ ((methodNameNode? t).map Tree.text).getD "" ++ params t

/-- A declaration with a documentation block, or nothing if it has no name. -/
def documented (file : File) (scope : Scope) (before : List Tree) (t : Tree) (name? : Option String)
    (kind : EntityKind) (signature : String → String) (calls bases : List String) : List Entity :=
  match name? with
  | some name =>
    let declared : Declared :=
      { node := t, name := name, kind := kind, signature := signature name
        docstring := Comment.adjacentBlock before, calls := calls, bases := bases }
    [declared.entity file scope.parent]
  | none => []

/-- What is found at the level of a file. -/
def fileRule (file : File) : Rule := fun scope before t =>
  if ["function_declaration", "generator_function_declaration"].contains t.kind then
    .only (documented file scope before t (name? t) (Entity.functionKind scope.parent) (functionSignature t)
      (calls t) [])
  else if ["lexical_declaration", "variable_declaration"].contains t.kind then
    .only (variableFunctions file scope before t)
  else if t.kind == "class_declaration" then
    match documented file scope before t (name? t) .classType (classSignature t) []
      ((extended? t).toList ++ implemented t) with
    | [e] => .container e "class_body" .members
    | _ => .nothing
  else if t.kind == "interface_declaration" then
    let extended := (t.children.filter (·.kind == "extends_type_clause")).flatMap (·.childTexts ["type_identifier"])
    .only (documented file scope before t (t.childText? "type_identifier") .interface ("interface " ++ ·) [] extended)
  else if t.kind == "type_alias_declaration" then
    .only (documented file scope before t (t.childText? "type_identifier") .typeAlias ("type " ++ ·) [] [])
  else if ["export_statement", "export_default_declaration", "program"].contains t.kind then .through scope
  else .nothing

/-- What is found in the body of a class. -/
def memberRule (file : File) : Rule := fun scope before t =>
  if t.kind == "method_definition" then
    .only (documented file scope before t (methodName? t) .method (fun _ => methodSignature t) (calls t) [])
  else if t.kind == "public_field_definition" then
    match t.child? "arrow_function" with
    | some value =>
      .only (documented file scope before t (t.childText? "property_identifier") .method (arrowSignature · value)
        (calls value) [])
    | none => .nothing
  else .nothing

/-- What is found at a node. -/
def rule (file : File) : Rule := fun scope =>
  match scope.level with
  | .file => fileRule file scope
  | _ => memberRule file scope

/-- The label of a file by its suffix. -/
def dialect (suffix : String) : String :=
  if suffix == ".ts" || suffix == ".tsx" then "typescript" else "javascript"

/-- The grammar that a file is read with, by its suffix. -/
def grammar (suffix : String) : String :=
  if suffix == ".tsx" then "tsx" else dialect suffix

end CodeAtlas.Language.Script
