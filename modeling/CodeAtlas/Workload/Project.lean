import CodeAtlas.Command
import CodeAtlas.Workload.Files

/-!
# A made-up project

A made-up project has one file for each of some suffixes, any number of further files with the same suffixes in turn,
and an empty file. It is indexed, stored and asked questions.

## Main definitions

* `projectDisk`: the files of the project.
* `buildProject`: the graph of the project.
* `storeProject`: the graph saved and loaded.
* `projectCommands`, `commandCodes`: commands on the project, and their exit codes.
-/

namespace CodeAtlas.Workload

open Store

/-- The suffixes of the files, in turn. -/
def projectSuffixes : List String :=
  [".py", ".pyi", ".js", ".ts", ".go", ".rs", ".java", ".c", ".cpp", ".cs", ".php", ".rb"]

/-- How often a file with a suffix repeats its declarations. -/
def projectCount (suffix : String) : Nat :=
  if suffix == ".py" || suffix == ".pyi" then 14 else 15

/-- The path of a file of the project. -/
def projectFile (folder : List String) (number : Nat) (suffix : String) : List String :=
  folder ++ ["mod" ++ toString number ++ suffix]

/-- The files of the project: one of each suffix below an inner directory, the further files, and an empty one. -/
def projectFiles (further : Nat) : List (List String × String) :=
  let file (folder : List String) (i : Nat) : List String × String :=
    let suffix := projectSuffixes.getD (i % projectSuffixes.length) ".py"
    (projectFile folder i suffix, sampleText (projectCount suffix))
  (List.range projectSuffixes.length).map (file ["src", "core"]) ++ (List.range further).map (file ["src"]) ++
    [(["src", "__init__.py"], "")]

/-- The disk with the project at a path. -/
def projectDisk (root : List String) (further : Nat) : Entry :=
  (projectFiles further).foldl (fun disk (parts, text) => disk.write (root ++ parts) text.toUTF8)
    (Entry.empty.makeFolder root)

/-- Where the project is. -/
def projectRoot : Path := ⟨"/", ["work", "project"]⟩

/-- The graph of the project. -/
def buildProject (further : Nat) : Graph :=
  Graph.empty.applyAll (buildEdits { path := projectRoot, read := sampleReader } [] (projectDisk [] further)).list

/-- The graph of the project saved and loaded: how many nodes were saved, how many came back, and how many classes
extend `Base`. -/
def storeProject (further : Nat) : Except Failure (Nat × Nat × Nat) :=
  let g := buildProject further
  let (outcome, c) := ({} : Connection Float).saveGraph g
  outcome.bind fun _ => c.ask fun t => (g.nodes.length, t.graph.nodes.length, (t.subclasses "Base").length)

/-- The name of a declaration of the project. -/
def projectEntity : String := "src/core/mod0.py:Cls0"

/-- Commands on the project: some succeed, and some ask for what is not there. -/
def projectCommands : List Command :=
  [.index none false, .map none, .expand "." none, .expand "src" none, .inspect projectEntity none,
    .expand "missing" none, .inspect "missing" none, .read "missing" none none none,
    .search "helper" 10 none, .hierarchy "Base" none, .read "src/core/mod0.py" (some 1) (some 5) none,
    .read "src/core/mod0.py" (some 9) (some 2) none, .read "src" none none none, .index none true,
    .index (some "src/core/mod0.py") false, .map (some "src")]

/-- The exit codes of some commands, one after the other. -/
def exitCodes (w : Workspace) : List Command → Except Failure (List Nat)
  | [] => .ok []
  | c :: rest =>
    match w.run {} c with
    | (.error f, _) => .error f
    | (.ok reply, w) => (exitCodes w rest).map (reply.exit :: ·)

/-- The exit codes of the commands on the project. -/
def commandCodes (further : Nat) : Except Failure (List Nat) :=
  exitCodes { disk := projectDisk projectRoot.parts further, current := projectRoot, read := sampleReader }
    projectCommands

end CodeAtlas.Workload
