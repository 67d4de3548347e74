import CodeAtlas.Language.Walk
import CodeAtlas.Tree.Call
import CodeAtlas.Tree.Comment

/-!
# Declarations of Ruby

Methods, classes and modules at any depth. A module counts as a class.

## Main definitions

* `Ruby.rule`: what is found at a node.
-/

namespace CodeAtlas.Language.Ruby

/-- The name of a class or a module, which can be qualified. -/
def typeName? (t : Tree) : Option String :=
  t.firstText? ["constant", "scope_resolution"]

/-- The class that a class extends. -/
def superclass? (t : Tree) : Option String :=
  (t.child? "superclass").bind typeName?

/-- The signature of a method, after what it belongs to. -/
def methodSignature (owner : String) (t : Tree) (name : String) : String :=
  "def " ++ owner ++ name ++ t.childTextD "method_parameters" ""

/-- What a singleton method belongs to. -/
def owner (t : Tree) : String :=
  if t.hasChild "self" then "self." else "."

/-- A declaration with its documentation, unless it has no name. -/
def declared? (file : File) (scope : Scope) (before : List Tree) (t : Tree) (name? : Option String)
    (kind : EntityKind) (signature : String → String) (calls bases : List String) : Option Entity := do
  let name ← name?
  let declared : Declared :=
    { node := t, name := name, kind := kind, signature := signature name
      docstring := Comment.hashRun before, calls := calls, bases := bases }
  return declared.entity file scope.parent

/-- The names called in a body. -/
def calls (t : Tree) : List String :=
  Calls.inBody Calls.anyIdentifier "body_statement" t

/-- A class or a module. -/
def container (entity? : Option Entity) : Found :=
  match entity? with
  | some e => .container e "body_statement" .file
  | none => .nothing

/-- The signature of a class. -/
def classSignature (t : Tree) (name : String) : String :=
  match superclass? t with
  | some base => "class " ++ name ++ " < " ++ base
  | none => "class " ++ name

/-- What is found at a node. -/
def rule (file : File) : Rule := fun scope before t =>
  let methodName := t.childText? "identifier"
  if t.kind == "method" then
    .only (declared? file scope before t methodName (Entity.functionKind scope.parent)
      (methodSignature "" t) (calls t) []).toList
  else if t.kind == "singleton_method" then
    .only (declared? file scope before t methodName .method (methodSignature (owner t) t) (calls t) []).toList
  else if t.kind == "class" then
    container (declared? file scope before t (typeName? t) .classType (classSignature t) [] (superclass? t).toList)
  else if t.kind == "module" then
    container (declared? file scope before t (typeName? t) .classType ("module " ++ ·) [] [])
  else if t.kind == "singleton_class" then .into "body_statement" scope
  else if ["program", "body_statement", "begin"].contains t.kind then .through scope
  else .nothing

end CodeAtlas.Language.Ruby
