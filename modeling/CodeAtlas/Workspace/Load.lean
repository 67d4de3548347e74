import CodeAtlas.Json.Reader
import CodeAtlas.Store.Snapshot
import CodeAtlas.Tree.Decode
import CodeAtlas.Workspace

/-!
# Workspaces from files

A directory with all that is below it becomes a workspace. The syntax tree of a file is taken from the file beside it
with `.tree` added to its name, and the tables of a database from its file.

## Main definitions

* `treesBelow`: the texts of files with their syntax trees.
* `databasesBelow`: the databases with their tables.
* `Workspace.ofFolder`: the workspace of a directory.
-/

namespace CodeAtlas

open Store

/-- The end of the names of files that hold syntax trees. -/
def treeSuffix : String := ".tree"

/-- The text of a file and its syntax tree, if the bytes are valid. -/
def treeOf? (content tree : ByteArray) : Option (String × SpanTree) :=
  match String.fromUTF8? content, ((String.fromUTF8? tree).bind Json.read?).bind SpanTree.ofJson? with
  | some text, some t => some (text, t)
  | _, _ => none

/-- The text of a file with its syntax tree, which is looked for among the items beside it. -/
def treeBeside (items : List (String × Entry)) (name : String) : Entry → List (String × SpanTree)
  | .file content _ =>
    match items.lookup (name ++ treeSuffix) with
    | some (.file tree _) => (treeOf? content tree).toList
    | _ => []
  | .folder _ _ => []

mutual

/-- The texts of all files below an entry that have a syntax tree beside them. -/
def treesBelow : Entry → List (String × SpanTree)
  | .file _ _ => []
  | .folder items _ => treesAmong items items

/-- The texts of all files at and below some of the items of a directory that have a syntax tree beside them. -/
def treesAmong (all : List (String × Entry)) : List (String × Entry) → List (String × SpanTree)
  | [] => []
  | (name, e) :: rest => treeBeside all name e ++ treesBelow e ++ treesAmong all rest

end

/-- The tables in the database of a project, if it has one. -/
def tablesIn? (project : Entry) : Option (Tables Float) :=
  match project.find? (databasePath (.relative [])).parts with
  | some (.file content _) => ((String.fromUTF8? content).bind Json.read?).bind Tables.ofJson?
  | _ => none

mutual

/-- The databases at and below an entry that stands at some components. -/
def databasesBelow (parts : List String) : Entry → List (String × Tables Float)
  | .file _ _ => []
  | .folder items locked =>
    let own := (tablesIn? (.folder items locked)).toList.map fun t => ((databasePath ⟨"/", parts⟩).toString, t)
    own ++ databasesAmong parts items

/-- The databases below some items of a directory. -/
def databasesAmong (parts : List String) : List (String × Entry) → List (String × Tables Float)
  | [] => []
  | (name, e) :: rest => databasesBelow (parts ++ [name]) e ++ databasesAmong parts rest

end

/-- The reader of texts whose syntax trees are known. -/
def knownReader (trees : List (String × SpanTree)) : SyntaxReader := fun _ text =>
  ((trees.lookup text).getD (.bare text)).resolve text.toList

/-- The workspace of a directory at an absolute path. -/
def Workspace.ofFolder (path : Path) (folder : Entry) : Workspace where
  disk := Entry.empty.change path.parts fun _ => some folder
  current := path
  read := knownReader (treesBelow folder)
  databases := databasesBelow path.parts folder

end CodeAtlas
