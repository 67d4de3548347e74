import CodeAtlas.Language.Walk
import CodeAtlas.Tree.Call
import CodeAtlas.Tree.Comment

/-!
# Declarations of Go

Functions, methods with the type of their receiver as parent, and the structures and interfaces among the type
declarations.

## Main definitions

* `Go.rule`: what is found at a node.
-/

namespace CodeAtlas.Language.Go

/-- The kinds of nodes that are a single result type. -/
def resultKinds : List String :=
  ["type_identifier", "pointer_type", "slice_type", "map_type"]

/-- The type that a receiver parameter names, directly or behind a pointer. -/
def receiverOf (t : Tree) : Option String :=
  if t.kind == "type_identifier" then t.text?
  else if t.kind == "pointer_type" then t.childText? "type_identifier"
  else none

/-- The type of the receiver of a method. -/
def receiver? (t : Tree) : Option String := do
  let params ← t.child? "parameter_list"
  let declared := params.children.filter (·.kind == "parameter_declaration")
  (declared.flatMap fun p => p.children.filterMap receiverOf).head?

/-- The nodes without the first one of a kind. -/
def eraseFirst (kind : String) (ts : List Tree) : List Tree :=
  ts.eraseP (·.kind == kind)

/-- The result of a function: a result node, a single type, or a second parameter list. -/
def functionResult? (t : Tree) : Option Tree :=
  (t.child? "result").or
    ((eraseFirst "parameter_list" t.children).find? fun c => ("parameter_list" :: resultKinds).contains c.kind)

/-- The result of a method: a result node or a single type. -/
def methodResult? (t : Tree) : Option Tree :=
  (t.child? "result").or (t.children.find? fun c => resultKinds.contains c.kind)

/-- The text of a result after a blank, if there is one. -/
def resultText (result : Option Tree) : String :=
  match result.bind Tree.text? with
  | some text => " " ++ text
  | none => ""

/-- The signature of a function. -/
def functionSignature (t : Tree) (name : String) : String :=
  "func " ++ name ++ t.childTextD "parameter_list" "()" ++ resultText (functionResult? t)

/-- The signature of a method. -/
def methodSignature (t : Tree) (name : String) : String :=
  let lists := t.children.filter (·.kind == "parameter_list")
  let receiver := (lists[0]?.map Tree.text).getD ""
  let params := (lists[1]?.bind Tree.text?).getD "()"
  "func " ++ receiver ++ " " ++ name ++ params ++ resultText (methodResult? t)

/-- The names called in a body. -/
def calls (t : Tree) : List String :=
  Calls.inBody (Calls.direct "call_expression" "selector_expression" "field_identifier") "block" t

/-- The function of a function declaration. -/
def function (file : File) (before : List Tree) (t : Tree) : List Entity :=
  match t.childText? "identifier" with
  | some name =>
    let declared : Declared :=
      { node := t, name := name, kind := .function, signature := functionSignature t name
        docstring := Comment.goRun before, calls := calls t }
    [declared.entity file none]
  | none => []

/-- The method of a method declaration. -/
def method (file : File) (before : List Tree) (t : Tree) : List Entity :=
  match t.childText? "field_identifier" with
  | some name =>
    let declared : Declared :=
      { node := t, name := name, kind := .method, signature := methodSignature t name
        docstring := Comment.goRun before, calls := calls t }
    [declared.entity file ((receiver? t).map (Entity.makeId file.path none))]
  | none => []

/-- The structure or interface of a type specification. -/
def typeSpec (file : File) (before : List Tree) (t : Tree) : List Entity :=
  match t.childText? "type_identifier", t.children.find? fun c => ["struct_type", "interface_type"].contains c.kind with
  | some name, some definition =>
    let isStruct := definition.kind == "struct_type"
    let declared : Declared :=
      { node := t, name := name, kind := if isStruct then .struct else .interface
        signature := "type " ++ name ++ (if isStruct then " struct" else " interface")
        docstring := Comment.goRun before }
    [declared.entity file none]
  | _, _ => []

/-- What is found at a node. The members of a type declaration are its specifications. -/
def rule (file : File) : Rule := fun scope before t =>
  match scope.level with
  | .file =>
    if t.kind == "function_declaration" then .only (function file before t)
    else if t.kind == "method_declaration" then .only (method file before t)
    else if t.kind == "type_declaration" then ⟨[], .children ⟨.members, none⟩⟩
    else .nothing
  | _ => if t.kind == "type_spec" then .only (typeSpec file before t) else .nothing

end CodeAtlas.Language.Go
