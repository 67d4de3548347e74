import CodeAtlas.CommandLine.Parse
import CodeAtlas.Json.Printer
import CodeAtlas.Workspace.Load

/-!
# The program

The files of the current directory are read, the command line is carried out, and the databases are written back after
a project has been indexed.

## Main definitions

* `main`: the program.
-/

open CodeAtlas

/-- The help text. -/
def helpText : String :=
  "Usage: kontexto COMMAND [ARGS]...\n\nCommands:\n" ++
    "  index [PATH] [--incremental]     index a project\n" ++
    "  map [PATH]                       show the structure of a project\n" ++
    "  expand NODE_PATH                 show what is in a directory, a file or a class\n" ++
    "  inspect ENTITY_PATH              show a declaration and what calls it\n" ++
    "  search QUERY [--limit N]         find declarations by words\n" ++
    "  read FILE_PATH [START] [END]     print lines of a file\n" ++
    "  hierarchy BASE_CLASS             show the classes that extend a class\n"

/-- A directory of the file system, with all that is below it. -/
partial def readFolder (entries : Array IO.FS.DirEntry) : IO Entry := do
  let mut folder := Entry.empty
  for entry in entries do
    let item ← if ← entry.path.isDir then readFolder (← entry.path.readDir)
      else pure (.file (← IO.FS.readBinFile entry.path) false)
    folder := folder.change [entry.fileName] fun _ => some item
  return folder

/-- The databases of a workspace written to the file system. -/
def writeDatabases (w : Workspace) : IO Unit :=
  for (path, t) in w.databases do
    IO.FS.createDirAll (Path.ofString path).parent.toString
    IO.FS.writeFile path t.toJson.compact

/-- The program. -/
def main (args : List String) : IO UInt32 := do
  match CommandLine.parse args with
  | .help => do
    IO.print helpText
    return 0
  | .wrong e => do
    IO.eprintln ("Error: " ++ e.message)
    return 2
  | .command c => do
    let current ← IO.currentDir
    let folder ← readFolder (← current.readDir)
    let (outcome, w) := (Workspace.ofFolder (Path.ofString current.toString) folder).run {} c
    if let .index _ _ := c then writeDatabases w
    match outcome with
    | .error f => do
      IO.eprintln ("Error: " ++ f.message)
      return 1
    | .ok reply => do
      for line in reply.console do IO.println line
      match reply.output with
      | some (.report j) => IO.println j.indented
      | some (.text s) => IO.print s
      | none => pure ()
      return reply.exit.toUInt32
