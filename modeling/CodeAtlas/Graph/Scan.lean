import CodeAtlas.Graph.Edit
import CodeAtlas.Language.Registry
import CodeAtlas.Path.Pattern
import CodeAtlas.Project.Disk
import CodeAtlas.Store.Statement

/-!
# From files to nodes

A source file becomes a node with the nodes of its declarations below it. A project is scanned directory by
directory; what an exclusion pattern matches is left out. A single file can be added again after a change.

## Main definitions

* `Source`: a project that can be read.
* `fileEdits`: the edits that put a source file.
* `scan`: the edits that put the contents of a directory.
* `Graph.build`, `Graph.addFile`, `Graph.addFolders`: the edits for a project, a file, and the directories of a
  file.
-/

namespace CodeAtlas

/-- A project that can be read: where it is, how its texts are read as syntax trees, for whom, and what the database of
its index limits. -/
structure Source where
  /-- The absolute path of the project. -/
  path : Path
  /-- How texts are read as syntax trees. -/
  read : SyntaxReader
  /-- Whether locks count. -/
  asUser : Bool := false
  /-- What the build of the database limits. -/
  limits : Store.Limits := .standard

namespace Source

/-- The absolute path of something below the project. -/
def absolute (s : Source) (parts : List String) : Path :=
  { s.path with parts := s.path.parts ++ parts }

end Source

/-- The text of components below the project. -/
def relativeText (parts : List String) : String :=
  Text.joinWith "/" parts

/-- The identifier of the node above an entity of a file. The parent of the entity is known by what follows its last
colon. -/
def entityParentId (rel : String) (e : Entity) : String :=
  match e.parent with
  | some parent => rel ++ ":" ++ Text.afterLast ':' parent
  | none => rel

/-- The identifier of the node of an entity of a file. -/
def entityNodeId (rel : String) (e : Entity) : String :=
  match e.parent with
  | some _ => entityParentId rel e ++ "." ++ e.name
  | none => rel ++ ":" ++ e.name

/-- The node of an entity of a file. -/
def entityNode (rel : String) (e : Entity) : Node where
  id := some (entityNodeId rel e)
  name := some e.name
  kind := some e.kind.label
  parent := some (entityParentId rel e)
  filePath := some rel
  firstLine := some e.firstLine
  lastLine := some e.lastLine
  signature := some e.signature
  docstring := e.docstring
  calls := e.calls
  bases := e.bases
  language := some e.language

/-- The edits that put an entity of a file below its parent. -/
def entityEdits (rel : String) (e : Entity) : List Edit :=
  let n := entityNode rel e
  [.put n.id n, .attach n.parent n.id]

/-- The node of a source file. A file that could not be read has no lines. -/
def fileNode (file : Path) (rel : String) (parent : NodeId) (l : Language) (o : Outline) : Node where
  id := some rel
  name := some file.name
  kind := some Node.fileKind
  parent := parent
  filePath := some rel
  firstLine := some 1
  lastLine := some (o.lines.getD 0 : Nat)
  language := some l.name

/-- The edits that put the entities of a source file. -/
def outlineEdits (rel : String) (o : Outline) : List Edit :=
  o.entities.flatMap (entityEdits rel)

/-- The edits that put a source file below a node that is there. -/
def fileEdits (file : Path) (rel : String) (parent : NodeId) (l : Language) (o : Outline) : List Edit :=
  .put (some rel) (fileNode file rel parent l o) :: .attach parent (some rel) :: outlineEdits rel o

/-- Whether a path is left out; a pattern without components is a failure, unless an earlier one matches. -/
def isExcluded (patterns : List String) (p : Path) : Except Failure Bool :=
  match patterns with
  | [] => .ok false
  | pattern :: rest =>
    match p.matches? pattern with
    | none => .error .emptyPattern
    | some true => .ok true
    | some false => isExcluded rest p

mutual

/-- The edits that put an item of a directory, unless it is left out. -/
def scanItem (s : Source) (patterns : List String) (parts : List String) (parent : NodeId) (name : String) :
    Entry → Edits
  | .file content locked =>
    let here := parts ++ [name]
    let file := s.absolute here
    match isExcluded patterns file with
    | .error failure => ⟨[], some failure⟩
    | .ok true => .none
    | .ok false =>
      match Language.forPath? file with
      | some l =>
        let o := l.outline s.read file (Entry.content? s.asUser (.file content locked))
        .ofList (fileEdits file (relativeText here) parent l o)
      | none => .none
  | .folder items locked =>
    let here := parts ++ [name]
    match isExcluded patterns (s.absolute here) with
    | .error failure => ⟨[], some failure⟩
    | .ok true => .none
    | .ok false =>
      let id : NodeId := some (relativeText here)
      (Edits.ofList [.put id (.folder id name parent), .attach parent id]).andThen fun _ =>
        if s.asUser && locked then .none else scanItems s patterns here id items

/-- The edits that put the items of a directory. -/
def scanItems (s : Source) (patterns : List String) (parts : List String) (parent : NodeId) :
    List (String × Entry) → Edits
  | [] => .none
  | (name, e) :: rest =>
    (scanItem s patterns parts parent name e).andThen fun _ => scanItems s patterns parts parent rest

end

/-- The edits that put a whole project. An empty list of patterns stands for the usual ones. -/
def buildEdits (s : Source) (patterns : List String) (disk : Entry) : Edits :=
  let patterns := if patterns.isEmpty then defaultExcludes else patterns
  (Edits.ofList [.put Graph.rootKey (.folder Graph.rootKey s.path.name none)]).andThen fun _ =>
    match disk.listing? s.asUser with
    | some items => scanItems s patterns [] Graph.rootKey items
    | none => .none

namespace Graph

/-- The keys of the nodes that belong to a file. -/
def keysOfFile (g : Graph) (rel : String) : List (NodeId × Node) :=
  g.nodes.filter fun (k, n) => n.filePath == some rel || k == some rel

/-- The edits that remove the nodes of a file. -/
def removeFile (g : Graph) (rel : String) : List Edit :=
  (g.keysOfFile rel).flatMap fun (k, n) =>
    match n.parent? with
    | some p => [.detach (some p) k, .erase k]
    | none => [.erase k]

/-- The edits that add a file, or add it again. The node above has to be there, or else only the file itself is
put. -/
def addFile (g : Graph) (s : Source) (disk : Entry) (parts : List String) (file : Path) (rel : String)
    (parent : NodeId) : Edits :=
  let removed := g.removeFile rel
  match Language.forPath? file with
  | none => .ofList removed
  | some l =>
    let o := l.outline s.read file (disk.readFile s.asUser parts)
    if (g.applyAll removed).contains parent || parent == some rel then
      .ofList (removed ++ fileEdits file rel parent l o)
    else
      ⟨removed ++ [.put (some rel) (fileNode file rel parent l o)], some (.missingNode parent)⟩

/-- The edits that put the missing directories among some components, below `parent`, whose text is `above`. -/
def addFoldersFrom (g : Graph) (parent : NodeId) (above : String) : List String → List Edit
  | [] => []
  | part :: parts =>
    let here := if above.isEmpty then part else above ++ "/" ++ part
    let id : NodeId := some here
    if g.contains id then g.addFoldersFrom id here parts
    else
      .put id (.folder id part parent) :: .attach parent id ::
        (g.put id (.folder id part parent)).addFoldersFrom id here parts

/-- The edits that put the missing directories above a file. -/
def addFolders (g : Graph) (file : Path) : List Edit :=
  g.addFoldersFrom rootKey "" file.allParts.dropLast

end Graph

end CodeAtlas
