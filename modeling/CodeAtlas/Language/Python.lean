import CodeAtlas.Language.Walk
import CodeAtlas.Text.Blank
import CodeAtlas.Text.Cut
import CodeAtlas.Tree.Call

/-!
# Declarations of Python

Functions and classes at the top of a file and in the bodies of classes. Definitions that something else wraps
are not looked for.

## Main definitions

* `Python.rule`: what is found at a node.
-/

namespace CodeAtlas.Language.Python

open Text

/-- The name of a definition; a missing name is empty. -/
def name (t : Tree) : String :=
  t.childTextD "identifier" ""

/-- The base classes of a class. -/
def bases (t : Tree) : List String :=
  match t.child? "argument_list" with
  | some args => args.childTexts ["identifier", "attribute", "subscript"]
  | none => []

/-- A quoted text without its quotes and the blanks inside them. -/
def unquote (literal : String) : Option String :=
  if startsWith "\"\"\"" literal || startsWith "'''" literal then some (strip (trim 3 3 literal))
  else if startsWith "\"" literal || startsWith "'" literal then some (strip (trim 1 1 literal))
  else none

/-- The text in the first expression statement of the body, if it is one. -/
def docstring (t : Tree) : Option String := do
  let body ← t.child? "block"
  let statement ← body.child? "expression_statement"
  let literal ← statement.childText? "string"
  unquote literal

/-- Whether a function is marked as asynchronous. -/
def isAsync (t : Tree) : Bool :=
  (t.children.head?.map Tree.kind) == some "async"

/-- The signature of a function. -/
def functionSignature (t : Tree) : String :=
  let result := match t.childText? "type" with
    | some type => " -> " ++ type
    | none => ""
  (if isAsync t then "async def " else "def ") ++ name t ++ t.childTextD "parameters" "()" ++ result

/-- The signature of a class. -/
def classSignature (t : Tree) : String :=
  let names := bases t
  if names.isEmpty then "class " ++ name t
  else "class " ++ name t ++ "(" ++ joinWith ", " names ++ ")"

/-- What is found at a node. -/
def rule (file : File) : Rule := fun scope _ t =>
  if t.kind == "function_definition" then
    let function : Declared :=
      { node := t, name := name t, kind := Entity.functionKind scope.parent, signature := functionSignature t
        docstring := docstring t, calls := Calls.inBody (Calls.direct "call" "attribute" "identifier") "block" t }
    .only [function.entity file scope.parent]
  else if t.kind == "class_definition" then
    let class' : Declared :=
      { node := t, name := name t, kind := .classType, signature := classSignature t
        docstring := docstring t, bases := bases t }
    .container (class'.entity file scope.parent) "block" .members
  else .nothing

end CodeAtlas.Language.Python
