import CodeAtlas.Entity
import CodeAtlas.Tree.Basic

/-!
# Walking a syntax tree for declarations

A language says by a rule what is found at a node: the declarations at the node itself, and where to look for
more. The walk applies the rule to the children of the root and follows it down.

## Main definitions

* `Scope`: where the walk is: at the level of a file or inside a declaration.
* `Found`: what is found at a node.
* `Rule`: what is found where.
* `walkList`: the declarations in a list of sibling nodes.
* `Declared.entity`: the entity of a declaration.
-/

namespace CodeAtlas.Language

/-- The file that is walked. -/
structure File where
  /-- The path. -/
  path : String
  /-- The language that its entities are labelled with. -/
  language : String

/-- The levels of a walk. -/
inductive Level where
  /-- Declarations of a file or of a name space. -/
  | file
  /-- Members of a declaration that has bodies. -/
  | members
  /-- Members of a declaration that only promises. -/
  | promises
  deriving DecidableEq

/-- Where the walk is. -/
structure Scope where
  /-- The level. -/
  level : Level
  /-- The identifier of the enclosing declaration. -/
  parent : Option String

/-- The scope of a file. -/
def Scope.top : Scope := ⟨.file, none⟩

/-- Where to look for more declarations. -/
inductive Inside where
  /-- Nowhere. -/
  | nowhere
  /-- In the children of the node. -/
  | children (scope : Scope)
  /-- In the children of the first child of a kind. -/
  | body (kind : String) (scope : Scope)

/-- What is found at a node. -/
structure Found where
  /-- The declarations at the node itself. -/
  entities : List Entity
  /-- Where to look for more. -/
  inside : Inside

namespace Found

/-- Nothing is found, neither here nor below. -/
def nothing : Found := ⟨[], .nowhere⟩

/-- Declarations are found here and nothing below. -/
def only (entities : List Entity) : Found := ⟨entities, .nowhere⟩

/-- Nothing is found here; the children are of the same scope. -/
def through (scope : Scope) : Found := ⟨[], .children scope⟩

/-- Nothing is found here; the children of a child are of a scope. -/
def into (kind : String) (scope : Scope) : Found := ⟨[], .body kind scope⟩

/-- A declaration is found here, and its members in the children of a child. -/
def container (entity : Entity) (kind : String) (level : Level) : Found :=
  ⟨[entity], .body kind ⟨level, some entity.id⟩⟩

end Found

/-- What is found at a node, given the scope and the nodes before it, the nearest one first. -/
abbrev Rule := Scope → List Tree → Tree → Found

mutual

/-- The declarations in a tree. -/
def walk (rule : Rule) (scope : Scope) (before : List Tree) : Tree → List Entity
  | .node kind text firstRow lastRow children =>
    let found := rule scope before (.node kind text firstRow lastRow children)
    found.entities ++
      match found.inside with
      | .nowhere => []
      | .children inner => walkList rule inner [] children
      | .body bodyKind inner => walkBody rule inner bodyKind children

/-- The declarations in sibling nodes, of which `before` came before, the nearest one first. -/
def walkList (rule : Rule) (scope : Scope) (before : List Tree) : List Tree → List Entity
  | [] => []
  | t :: ts => walk rule scope before t ++ walkList rule scope (t :: before) ts

/-- The declarations in the children of the first of some nodes that has a kind. -/
def walkBody (rule : Rule) (scope : Scope) (kind : String) : List Tree → List Entity
  | [] => []
  | t :: ts => if t.kind == kind then walkChildren rule scope t else walkBody rule scope kind ts

/-- The declarations in the children of a node. -/
def walkChildren (rule : Rule) (scope : Scope) : Tree → List Entity
  | .node _ _ _ _ children => walkList rule scope [] children

end

/-- A declaration as its rule sees it. -/
structure Declared where
  /-- The node. -/
  node : Tree
  /-- The name. -/
  name : String
  /-- The kind. -/
  kind : EntityKind
  /-- The signature. -/
  signature : String
  /-- The documentation. -/
  docstring : Option String := none
  /-- The names it calls. -/
  calls : List String := []
  /-- The names it extends or implements. -/
  bases : List String := []

/-- The entity of a declaration. Lines are counted from one. -/
def Declared.entity (d : Declared) (file : File) (parent : Option String) : Entity where
  id := Entity.makeId file.path parent d.name
  name := d.name
  kind := d.kind
  path := file.path
  firstLine := d.node.firstRow + 1
  lastLine := d.node.lastRow + 1
  signature := d.signature
  docstring := d.docstring
  parent := parent
  calls := d.calls
  bases := d.bases
  language := file.language

/-- Words in front of a signature, each followed by a blank. -/
def wordsBefore (words : List String) : String :=
  String.join (words.map (· ++ " "))

end CodeAtlas.Language
