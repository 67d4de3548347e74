import CodeAtlas.Language.Walk
import CodeAtlas.Text.Blank
import CodeAtlas.Text.Cut
import CodeAtlas.Tree.Call
import CodeAtlas.Tree.Comment

/-!
# Declarations of C and C++

Functions, structures, enumerations, type definitions, and classes with the functions defined in their bodies, also
inside name spaces, templates and conditional sections.

## Main definitions

* `CFamily.rule`: what is found at a node.
-/

namespace CodeAtlas.Language.CFamily

open Text

/-- The characters after the last double colon, of which `current` were read since the one before, read
backwards. -/
def lastSegmentFrom (current : List Char) : List Char → List Char
  | [] => current.reverse
  | ':' :: ':' :: cs => lastSegmentFrom [] cs
  | c :: cs => lastSegmentFrom (c :: current) cs

/-- The last part of a qualified name. -/
def lastSegment (name : String) : String :=
  String.ofList (lastSegmentFrom [] name.toList)

/-- The declarator of a function, directly or behind a pointer. -/
def declarator? (t : Tree) : Option Tree :=
  (t.child? "function_declarator").or ((t.child? "pointer_declarator").bind (·.child? "function_declarator"))

/-- The name in a part of a declarator. -/
def declaredName? (t : Tree) : Option String :=
  if ["identifier", "field_identifier", "destructor_name"].contains t.kind then t.text?
  else if t.kind == "qualified_identifier" then t.text?.map lastSegment
  else none

/-- The name of a function; a qualified name that ends in a double colon is none. -/
def functionName? (t : Tree) : Option String := do
  let declarator ← declarator? t
  let name ← (declarator.children.filterMap declaredName?).head?
  if name.isEmpty then none else some name

/-- The header of a function: its text up to the opening brace, on one line. -/
def functionSignature (t : Tree) : String :=
  let cs := t.text.toList
  let header := cs.takeWhile (· != '\x7b')
  if header.isEmpty || header.length == cs.length then "function"
  else joinWith " " (words (String.ofList header))

/-- The base classes of a class. -/
def bases (t : Tree) : List String :=
  match t.child? "base_class_clause" with
  | some clause => clause.childTexts ["type_identifier"]
  | none => []

/-- The signature of a class. -/
def classSignature (t : Tree) (name : String) : String :=
  let names := bases t
  "class " ++ name ++ (if names.isEmpty then "" else " : " ++ joinWith ", " names)

/-- A declaration with its documentation, unless it has no name. -/
def declared? (file : File) (parent : Option String) (before : List Tree) (t : Tree) (name? : Option String)
    (kind : EntityKind) (signature : String → String) (calls bases : List String) : Option Entity := do
  let name ← name?
  let declared : Declared :=
    { node := t, name := name, kind := kind, signature := signature name
      docstring := Comment.cRun before, calls := calls, bases := bases }
  return declared.entity file parent

/-- The function of a function definition. -/
def function (file : File) (scope : Scope) (before : List Tree) (t : Tree) : List Entity :=
  let calls := Calls.inBody (Calls.direct "call_expression" "field_expression" "field_identifier") "compound_statement" t
  (declared? file scope.parent before t (functionName? t) (Entity.functionKind scope.parent)
    (fun _ => functionSignature t) calls []).toList

/-- The nodes whose children are declarations of the same scope. -/
def wrappers : List String :=
  ["template_declaration", "declaration", "translation_unit", "preproc_ifdef", "preproc_if", "preproc_else"]

/-- What is found at the level of a file or a name space. -/
def fileRule (file : File) : Rule := fun scope before t =>
  let typeName := t.firstText? ["type_identifier"]
  if t.kind == "function_definition" then .only (function file scope before t)
  else if t.kind == "struct_specifier" then
    .only (declared? file none before t typeName .struct ("struct " ++ ·) [] []).toList
  else if t.kind == "enum_specifier" then
    .only (declared? file none before t typeName .enumeration ("enum " ++ ·) [] []).toList
  else if t.kind == "type_definition" then
    .only (declared? file none before t (t.childTexts ["type_identifier"]).getLast? .typeAlias
      ("typedef ... " ++ ·) [] []).toList
  else if t.kind == "class_specifier" then
    match declared? file scope.parent before t typeName .classType (classSignature t) [] (bases t) with
    | some e => .container e "field_declaration_list" .members
    | none => .nothing
  else if t.kind == "namespace_definition" then .into "declaration_list" .top
  else if wrappers.contains t.kind then .through scope
  else .nothing

/-- What is found at a node. Of the members of a class only functions with a body count. -/
def rule (file : File) : Rule := fun scope before t =>
  match scope.level with
  | .file => fileRule file scope before t
  | _ => if t.kind == "function_definition" then .only (function file scope before t) else .nothing

/-- The label of a file by its suffix. -/
def dialect (suffix : String) : String :=
  if [".cpp", ".hpp", ".cc", ".cxx", ".hxx", ".hh"].contains suffix then "cpp" else "c"

end CodeAtlas.Language.CFamily
