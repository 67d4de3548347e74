import CodeAtlas.Project.Index

/-!
# Workspaces

A workspace is what commands work on: all files and directories from the root down, the databases among them, and the
current directory. The database of a project is a file in a directory of its own inside the project. The tables of a
database are kept beside the tree; a database file without tables is an empty database.

## Main definitions

* `Workspace`: workspaces.
* `Path.collapse`, `Workspace.resolve`: absolute paths without double dots.
* `databasePath`: where the database of a project is.
* `Workspace.tables`, `Workspace.putTables`: the tables of a database.
-/

namespace CodeAtlas

open Store

/-- The components with each double dot taking away the component before it. `kept` are the components so far, the
last one first. -/
def Path.collapseParts (kept : List String) : List String → List String
  | [] => kept.reverse
  | part :: parts => if part = ".." then collapseParts kept.tail parts else collapseParts (part :: kept) parts

/-- The path without double dots. -/
def Path.collapse (p : Path) : Path :=
  { p with parts := collapseParts [] p.parts }

/-- The directory of a project that holds its database. -/
def databaseFolder (project : Path) : Path :=
  project.append (.relative [".kontexto"])

/-- Where the database of a project is. -/
def databasePath (project : Path) : Path :=
  (databaseFolder project).append (.relative ["index.db"])

/-- What commands work on. -/
structure Workspace where
  /-- All files and directories, from the root down. -/
  disk : Entry
  /-- The current directory. -/
  current : Path
  /-- How texts are read as syntax trees. -/
  read : SyntaxReader
  /-- What the build of the databases limits. -/
  limits : Limits := .standard
  /-- The tables of the databases, by the paths of their files. -/
  databases : List (String × Tables Float) := []

namespace Workspace

/-- The absolute path that is meant by a text, or the current directory. -/
def resolve (w : Workspace) (text : Option String) : Path :=
  match text with
  | some s => (w.current.append (.ofString s)).collapse
  | none => w.current.collapse

/-- What stands at an absolute path. -/
def entry? (w : Workspace) (p : Path) : Option Entry :=
  (w.disk.walk false [] p.parts).join

/-- Whether a database file exists. For an ordinary user, locked directories are in the way. -/
def hasDatabase (w : Workspace) (asUser : Bool) (p : Path) : Except Failure Bool :=
  (w.disk.look asUser p p.parts).map (·.isSome)

/-- The tables of a database. Without a file it is empty. -/
def tables (w : Workspace) (p : Path) : Tables Float :=
  if (w.entry? p).isSome then (w.databases.lookup p.toString).getD {} else {}

/-- The workspace with the tables of a database, and with its file. -/
def putTables (w : Workspace) (p : Path) (t : Tables Float) : Workspace :=
  let disk := if (w.entry? p).isSome then w.disk else w.disk.write p.parts ByteArray.empty
  { w with disk, databases := Search.putValue p.toString t w.databases }

/-- A project as something to read. -/
def source (w : Workspace) (project : Path) : Source :=
  { path := project, read := w.read, limits := w.limits }

end Workspace

end CodeAtlas
