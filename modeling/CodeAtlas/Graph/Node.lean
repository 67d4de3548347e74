/-!
# Nodes of the map

A node of the map is a directory, a file or a declaration. A node from a database may lack its identifier, and a
node that is to be stored may lack its name or its kind.

## Main definitions

* `NodeId`: identifiers.
* `Node`: nodes.
* `Tally`: numbers with labels.
* `Stats`: how many files, classes, functions and methods there are.
-/

namespace CodeAtlas

/-- The identifier of a node. -/
abbrev NodeId := Option String

/-- A node of the map. -/
structure Node where
  /-- The identifier. -/
  id : NodeId
  /-- The name. -/
  name : Option String
  /-- The kind: a directory, a file, or a kind of declaration. -/
  kind : Option String
  /-- The identifier of the node above. -/
  parent : NodeId := none
  /-- The path of the file. -/
  filePath : Option String := none
  /-- The first line. -/
  firstLine : Option Int := none
  /-- The last line. -/
  lastLine : Option Int := none
  /-- The signature. -/
  signature : Option String := none
  /-- The documentation. -/
  docstring : Option String := none
  /-- The identifiers of the nodes below. -/
  children : List NodeId := []
  /-- The names it calls. -/
  calls : List String := []
  /-- The names it extends or implements. -/
  bases : List String := []
  /-- The language. -/
  language : Option String := none
  deriving DecidableEq, Repr, Inhabited

namespace Node

/-- The kind of directories. -/
def folderKind : String := "dir"

/-- The kind of files. -/
def fileKind : String := "file"

/-- The kinds that are searched. -/
def searchableKinds : List String := ["class", "function", "method"]

/-- Whether a node is searched. -/
def isSearchable (n : Node) : Bool :=
  match n.kind with
  | some k => searchableKinds.contains k
  | none => false

/-- The node of a directory. -/
def folder (id : NodeId) (name : String) (parent : NodeId) : Node :=
  { id, name := some name, kind := some folderKind, parent }

/-- The identifier of the node above, unless it is missing or empty. -/
def parent? (n : Node) : NodeId :=
  match n.parent with
  | some id => if id.isEmpty then none else some id
  | none => none

end Node

/-- Numbers with their labels, in the order in which they are shown. -/
abbrev Tally := List (String × Int)

/-- How many files, classes, functions and methods there are. -/
structure Stats where
  /-- The number of files. -/
  files : Int := 0
  /-- The number of classes. -/
  classes : Int := 0
  /-- The number of functions. -/
  functions : Int := 0
  /-- The number of methods. -/
  methods : Int := 0
  deriving DecidableEq, Repr, Inhabited

namespace Stats

/-- The numbers with their labels. -/
def tally (s : Stats) : Tally :=
  [("files", s.files), ("classes", s.classes), ("functions", s.functions), ("methods", s.methods)]

/-- No nodes at all. -/
def zero : Stats := {}

/-- The numbers for a node of a kind. -/
def ofKind : Option String → Stats
  | some "file" => { files := 1 }
  | some "class" => { classes := 1 }
  | some "function" => { functions := 1 }
  | some "method" => { methods := 1 }
  | _ => {}

/-- The numbers of two groups of nodes together. -/
def add (s t : Stats) : Stats :=
  ⟨s.files + t.files, s.classes + t.classes, s.functions + t.functions, s.methods + t.methods⟩

instance : Add Stats := ⟨add⟩

/-- The numbers of several groups of nodes together. -/
def sum (groups : List Stats) : Stats :=
  groups.foldr (· + ·) zero

end Stats

end CodeAtlas
