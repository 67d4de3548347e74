import CodeAtlas.Language.Walk
import CodeAtlas.Text.Cut
import CodeAtlas.Tree.Call
import CodeAtlas.Tree.Comment

/-!
# Declarations of Java

Classes with their methods, constructors and nested types, interfaces with their methods, enumerations, and records.

## Main definitions

* `Java.rule`: what is found at a node.
-/

namespace CodeAtlas.Language.Java

open Text

/-- The class that a class extends. -/
def superclass? (t : Tree) : Option String :=
  ((t.children.filter (·.kind == "superclass")).filterMap (·.childText? "type_identifier")).head?

/-- The types named in the clauses of a kind, directly or in a list. -/
def clauseTypes (clause : String) (t : Tree) : List String :=
  (t.children.filter (·.kind == clause)).flatMap fun c =>
    c.children.flatMap fun item =>
      if item.kind == "type_identifier" then item.text?.toList
      else if item.kind == "type_list" then item.childTexts ["type_identifier"]
      else []

/-- The modifiers in front of a declaration. -/
def modifiers (t : Tree) : String :=
  let words := (t.children.filter (·.kind == "modifiers")).flatMap fun m => m.children.filterMap Tree.text?
  wordsBefore words

/-- The signature of a class. -/
def classSignature (t : Tree) (name : String) : String :=
  let extended := match superclass? t with
    | some base => " extends " ++ base
    | none => ""
  let implemented := clauseTypes "super_interfaces" t
  modifiers t ++ "class " ++ name ++ extended ++
    (if implemented.isEmpty then "" else " implements " ++ joinWith ", " implemented)

/-- The type of what a method returns. -/
def resultType (t : Tree) : String :=
  let kinds := ["type_identifier", "void_type", "generic_type", "array_type", "integral_type", "floating_point_type"]
  ((t.children.find? fun c => kinds.contains c.kind).map Tree.text).getD ""

/-- The signature of a method. -/
def methodSignature (t : Tree) (name : String) : String :=
  modifiers t ++ resultType t ++ " " ++ name ++ t.childTextD "formal_parameters" "()"

/-- The signature of a constructor. -/
def constructorSignature (t : Tree) (name : String) : String :=
  modifiers t ++ name ++ t.childTextD "formal_parameters" "()"

/-- A declaration with its documentation, unless it has no name. -/
def declared? (file : File) (scope : Scope) (before : List Tree) (t : Tree) (kind : EntityKind)
    (signature : String → String) (calls bases : List String) : Option Entity := do
  let name ← t.childText? "identifier"
  let declared : Declared :=
    { node := t, name := name, kind := kind, signature := signature name
      docstring := Comment.javaBlock before, calls := calls, bases := bases }
  return declared.entity file scope.parent

/-- The names called in a body. -/
def calls (t : Tree) : List String :=
  Calls.inBody (Calls.named ["method_invocation"] "identifier") "block" t

/-- What is found at a method. -/
def method (file : File) : Rule := fun scope before t =>
  .only (declared? file scope before t .method (methodSignature t) (calls t) []).toList

/-- What is found at a type declaration that can be nested. -/
def typeRule (file : File) : Rule := fun scope before t =>
  if t.kind == "class_declaration" then
    match declared? file scope before t .classType (classSignature t) []
      ((superclass? t).toList ++ clauseTypes "super_interfaces" t) with
    | some e => .container e "class_body" .members
    | none => .nothing
  else if t.kind == "interface_declaration" then
    match declared? file scope before t .interface ("interface " ++ ·) [] (clauseTypes "extends_interfaces" t) with
    | some e => .container e "interface_body" .promises
    | none => .nothing
  else if t.kind == "enum_declaration" then
    .only (declared? file scope before t .enumeration ("enum " ++ ·) [] []).toList
  else .nothing

/-- What is found at a node. Records only count at the level of a file; interfaces only have methods. -/
def rule (file : File) : Rule := fun scope before t =>
  match scope.level with
  | .file =>
    if t.kind == "record_declaration" then
      .only (declared? file scope before t .classType ("record " ++ ·) [] []).toList
    else if t.kind == "program" then .through scope
    else typeRule file scope before t
  | .members =>
    if t.kind == "method_declaration" then method file scope before t
    else if t.kind == "constructor_declaration" then
      .only (declared? file scope before t .constructor (constructorSignature t) (calls t) []).toList
    else typeRule file scope before t
  | .promises => if t.kind == "method_declaration" then method file scope before t else .nothing

end CodeAtlas.Language.Java
