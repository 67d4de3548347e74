import CodeAtlas.Report
import CodeAtlas.Text.Lines
import CodeAtlas.Workspace

/-!
# Commands

A command is carried out in a workspace. Its reply has an exit code, lines for the console, and what is printed: a
report, or a text. All commands but the indexing of a project need an index.

## Main definitions

* `Command`, `Reply`: commands and their replies.
* `readText`: the text of a file.
* `selectLines`: a range of lines.
* `Workspace.run`: a command carried out.
-/

namespace CodeAtlas

open Store Search

/-- How a file is opened. -/
structure Access where
  /-- Whether locks count. -/
  asUser : Bool := false
  /-- Whether a file can be opened only once. -/
  once : Bool := false

/-- A command. The project is the current directory, unless one is given. -/
inductive Command where
  /-- A project is indexed, as a whole or where it has changed. -/
  | index (project : Option String) (incremental : Bool)
  /-- The overview of a project. -/
  | map (project : Option String)
  /-- A node with the nodes below it. -/
  | expand (id : String) (project : Option String)
  /-- A node with what calls it. -/
  | inspect (id : String) (project : Option String)
  /-- The nodes that match a query. -/
  | search (query : String) (limit : Int) (project : Option String)
  /-- A range of lines of a file. -/
  | read (path : String) (first last : Option Int) (project : Option String)
  /-- The classes that extend a class. -/
  | hierarchy (base : String) (project : Option String)

/-- What a command prints. -/
inductive Output where
  /-- A report. -/
  | report (j : Json)
  /-- A text. -/
  | text (s : String)

/-- The reply to a command. -/
structure Reply where
  /-- The exit code. -/
  exit : Nat := 0
  /-- The lines for the console. -/
  console : List String := []
  /-- What is printed. -/
  output : Option Output := none

namespace Reply

/-- The reply that says what went wrong. -/
def failed (what : String) : Reply :=
  { exit := 1, console := ["[red]Error:[/red] " ++ what] }

/-- The reply that prints a report. -/
def report (j : Json) : Reply :=
  { output := some (.report j) }

/-- A text in a box with the title of the program. -/
def box (text : String) : String :=
  "[[Kontexto]]\n" ++ text

/-- The lines about the numbers of a project. -/
def statsText (filesLabel : String) (s : Stats) : String :=
  "  " ++ filesLabel ++ ": " ++ toString s.files ++ "\n  Classes: " ++ toString s.classes ++ "\n  Functions: " ++
    toString s.functions ++ "\n  Methods: " ++ toString s.methods ++ "\n\n"

/-- The line about the database. -/
def databaseText (database : Path) : String :=
  "Database: [dim]" ++ database.toString ++ "[/dim]"

/-- The reply to indexing a project as a whole. -/
def indexedAll (project database : Path) (s : Stats) : Reply :=
  { console := ["Indexing [bold]" ++ project.toString ++ "[/bold]...", "Building search index...",
      box ("[green]Indexed successfully![/green]\n\n" ++ statsText "Files" s ++ databaseText database)] }

/-- What is said about the search index. -/
def indexText (c : Changes) : List String :=
  (if c.removedNodes = 0 then []
    else ["Removing " ++ toString c.removedNodes ++ " entities from search index..."]) ++
  (if c.updatedNodes ≠ 0 then ["Updating search index for " ++ toString c.updatedNodes ++ " entities..."]
    else if c.removedNodes = 0 then ["No changes to search index."] else [])

/-- The reply to indexing the changes of a project. -/
def indexedChanges (project database : Path) (c : Changes) : Reply :=
  { console := ["Incremental indexing [bold]" ++ project.toString ++ "[/bold]..."] ++ indexText c ++
      [box ("[green]Incremental index complete![/green]\n\n  Added: " ++ toString c.addedFiles ++
        " files\n  Updated: " ++ toString c.updatedFiles ++ " files\n  Removed: " ++ toString c.removedFiles ++
        " files\n\n" ++ statsText "Total Files" c.stats ++ databaseText database)] }

/-- The reply without an index. -/
def noIndex (database : Path) : Reply :=
  failed ("No index found at " ++ database.toString ++ "\nRun [bold]kontexto index[/bold] first.")

end Reply

/-! ## Reading lines -/

/-- The text of bytes in which each byte is a character. -/
def bytesText (bytes : ByteArray) : String :=
  String.ofList (bytes.toList.map fun b => Char.ofNat b.toNat)

/-- The lines from `first` to `last`, counted from one. Zero or nothing stands for the first and the last line. A range
without lines gives its bounds. -/
def selectLines (first last : Option Int) (lines : List String) : Except (Int × Int) (List String) :=
  let count : Int := lines.length
  let start := match first with
    | some n => if n < 1 then 1 else n
    | none => 1
  let stop := match last with
    | some n => if n = 0 ∨ count < n then count else n
    | none => count
  if stop < start then .error (start, stop)
  else .ok ((lines.take stop.toNat).drop (start - 1).toNat)

/-- Why a file could not be read. -/
inductive ReadProblem where
  /-- It may not be opened. -/
  | denied
  /-- It is a directory. -/
  | isFolder
  /-- It may not be opened a second time. -/
  | deniedAgain

/-- The text of a file: UTF-8, or, after opening the file once more, one character for each byte. Line ends become
newlines. -/
def readText (access : Access) (e : Entry) : Except ReadProblem String :=
  match e with
  | .folder _ locked => .error (if access.asUser && locked then .denied else .isFolder)
  | .file content locked =>
    if access.asUser && locked then .error .denied
    else
      match String.fromUTF8? content with
      | some text => .ok (Text.normalizeNewlines text)
      | none => if access.once then .error .deniedAgain else .ok (Text.normalizeNewlines (bytesText content))

/-- What is said when a file could not be read. -/
def ReadProblem.message (path : String) (absolute : Path) : ReadProblem → String
  | .denied => "Permission denied: " ++ path
  | .isFolder => "Cannot read file " ++ path ++ ": [Errno 21] Is a directory: " ++ Text.quoted absolute.toString
  | .deniedAgain => "Cannot read file " ++ path ++ ": " ++ (Failure.denied absolute.toString).message

/-- The reply to reading a range of lines of a file. -/
def readReply (access : Access) (path : String) (absolute : Path) (first last : Option Int) (e : Entry) : Reply :=
  match readText access e with
  | .error problem => .failed (problem.message path absolute)
  | .ok text =>
    match selectLines first last (Text.cutAt '\n' text) with
    | .error (start, stop) => .failed ("Invalid line range: " ++ toString start ++ "-" ++ toString stop)
    | .ok lines => { output := some (.text (Text.joinWith "\n" lines ++ "\n")) }

/-! ## Questions about an index -/

/-- The overview of a project. -/
def mapReply (limits : Limits) (project : Path) (t : Tables Float) : Except Failure Reply :=
  match t.node? Graph.rootKey with
  | none => .ok (.failed "No root node found")
  | some root =>
    let folders := ((t.children Graph.rootKey).filter fun n => n.kind == some Node.folderKind).map (·.id)
    (({ committed := t, limits } : Connection Float).statsOfAll (folders ++ [Graph.rootKey])).map fun stats =>
      let numbers (id : NodeId) : Tally := ((stats.lookup id).map (·.tally)).getD []
      .report (Report.map root.name (some project.toString) (numbers Graph.rootKey)
        (folders.map fun id => (id, numbers id)))

/-- A node with the nodes below it. -/
def expandReply (limits : Limits) (id : String) (t : Tables Float) : Except Failure Reply :=
  match t.node? (some id) with
  | none => .ok (.failed ("Node not found: " ++ id))
  | some n =>
    let children := t.children (some id)
    (({ committed := t, limits } : Connection Float).statsOfAll (children.map (·.id))).map fun stats =>
      .report (Report.expand n children fun id => ((stats.lookup id).map (·.tally)).getD [])

/-- A node with what calls it. -/
def inspectReply (id : String) (t : Tables Float) : Reply :=
  match t.node? (some id) with
  | none => .failed ("Entity not found: " ++ id)
  | some n => .report (Report.inspect n n.calls ((n.name.map t.callers).getD []))

/-- The nodes that match a query. -/
def searchReply (limits : Limits) (query : String) (limit : Int) (t : Tables Float) : Except Failure Reply :=
  ((({ connection := { committed := t, limits } } : Session Float).search query limit).1).map fun found =>
    .report (Report.search query found)

/-- The classes that extend a class. -/
def hierarchyReply (base : String) (t : Tables Float) : Reply :=
  .report (Report.hierarchy base (t.subclasses base))

/-! ## Carrying out commands -/

namespace Workspace

/-- A project indexed, as a whole or where it has changed since the last time. -/
def index (w : Workspace) (project : Path) (incremental : Bool) : Except Failure Reply × Workspace :=
  let database := databasePath project
  match w.entry? project with
  | some (.folder items locked) =>
    if incremental && (w.entry? database).isSome then
      let (outcome, t) := indexChanges (w.source project) (.folder items locked) (w.tables database)
      (outcome.map (Reply.indexedChanges project database), w.putTables database t)
    else
      let ready := { w with disk := w.disk.makeFolder (databaseFolder project).parts }
      let (outcome, t) :=
        indexAll (w.source project) ((ready.entry? project).getD .empty) (ready.tables database)
      (outcome.map (Reply.indexedAll project database), ready.putTables database t)
  | _ => (.ok (.failed (project.toString ++ " is not a directory")), w)

/-- A question about the index of a project, which has to be there. -/
def ask (w : Workspace) (access : Access) (project : Option String)
    (answer : Path → Tables Float → Except Failure Reply) : Except Failure Reply :=
  let root := w.resolve project
  let database := databasePath root
  match w.hasDatabase access.asUser database with
  | .error f => .error f
  | .ok false => .ok (.noIndex database)
  | .ok true => answer root (w.tables database)

/-- The lines of a file of a project. -/
def readLines (w : Workspace) (access : Access) (root : Path) (path : String) (first last : Option Int) :
    Except Failure Reply :=
  let absolute := root.append (.ofString path)
  (w.disk.look access.asUser absolute absolute.parts).map fun
    | some e => readReply access path absolute first last e
    | none => .failed ("File not found: " ++ path)

/-- A command carried out. -/
def run (w : Workspace) (access : Access) : Command → Except Failure Reply × Workspace
  | .index project incremental => w.index (w.resolve project) incremental
  | .map project => (w.ask access project (mapReply w.limits), w)
  | .expand id project => (w.ask access project fun _ t => expandReply w.limits id t, w)
  | .inspect id project => (w.ask access project fun _ t => .ok (inspectReply id t), w)
  | .search query limit project => (w.ask access project fun _ t => searchReply w.limits query limit t, w)
  | .read path first last project =>
    (w.ask access project fun root _ => w.readLines access root path first last, w)
  | .hierarchy base project => (w.ask access project fun _ t => .ok (hierarchyReply base t), w)

end Workspace

end CodeAtlas
