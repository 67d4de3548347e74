import CodeAtlas.Digest
import CodeAtlas.Graph.Scan
import CodeAtlas.Search.Engine

/-!
# Indexing a project

A project is indexed as a whole, or only where it has changed since. Indexing as a whole scans the project, saves the
graph with the digests of its files, and builds the search index. Indexing the changes loads the saved graph, adds
files without a digest, adds files with another digest again, drops the digests of files that are gone, saves the
graph, and brings the search index up to date.

Each way gives its outcome and the tables after it, also when it fails.

## Main definitions

* `sourceFiles`: the source files of a project, as indexing the changes sees them.
* `indexAll`: a project indexed as a whole.
* `Progress`, `indexFile`: what has been found so far, and a step to the next file.
* `Progress.save`: what has been found saved, and the search index brought up to date.
* `indexChangesIn`, `indexChangesAlong`, `indexChanges`: the changes of a project indexed, in some order of its files
  and declarations, in some order of its files, or in the order of its directories.
-/

namespace CodeAtlas

open Store Search

mutual

/-- The components of all files below an entry, which itself stands at some components. -/
def filesBelow (parts : List String) : Entry → List (List String)
  | .file _ _ => [parts]
  | .folder items _ => filesAmong parts items

/-- The components of all files among some items of a directory. -/
def filesAmong (parts : List String) : List (String × Entry) → List (List String)
  | [] => []
  | (name, e) :: rest => filesBelow (parts ++ [name]) e ++ filesAmong parts rest

end

/-- The end of the names of directories with package data. -/
def packageDataSuffix : String := ".egg-info"

/-- Whether a component keeps a file out of a project. -/
def isExcludedPart (part : String) : Bool :=
  defaultExcludes.contains part || packageDataSuffix.toList.isSuffixOf part.toList

/-- The source files of a project: the files with a suffix of a known language and no component that keeps them
out. -/
def sourceFiles (disk : Entry) : List (List String) :=
  (filesAmong [] disk.items).filter fun parts =>
    Language.allExtensions.contains (Language.suffixOf (.relative parts)) && !parts.any isExcludedPart

/-- The digest of the file at some components, if there is one. -/
def fileDigest? (disk : Entry) (parts : List String) : Option String :=
  (disk.readFile false parts).map Digest.sha256

/-- The digests of the files of a graph. -/
def graphDigests (disk : Entry) (g : Graph) : List (String × String) :=
  g.nodes.filterMap fun (_, n) =>
    match n.filePath with
    | some path =>
      if n.kind == some Node.fileKind && !path.isEmpty then
        (fileDigest? disk (Path.components path)).map fun digest => (path, digest)
      else none
    | none => none

variable {R : Type} [Scalar R]

/-- The tables that last when the work of a session ends. -/
def Search.Session.close (s : Session R) : Tables R :=
  s.connection.close.committed

/-- A project indexed as a whole: how many nodes of each kind it has, and the tables. -/
def indexAll (s : Source) (disk : Entry) (t : Tables R) : Except Failure Stats × Tables R :=
  let edits := buildEdits s [] disk
  match edits.failure with
  | some f => (.error f, t)
  | none =>
    let g := Graph.empty.applyAll edits.list
    match ({ committed := t, limits := s.limits } : Connection R).saveGraph g with
    | (.error f, c) => (.error f, c.close.committed)
    | (.ok (), c) =>
      match c.saveDigests (graphDigests disk g) with
      | (.error f, c) => (.error f, c.close.committed)
      | (.ok (), c) =>
        let (outcome, session) := ({ connection := c } : Session R).build
        (outcome.map fun _ => g.stats Graph.rootKey, session.close)

/-- What has been found so far about the changes of a project. -/
structure Progress where
  /-- The graph. -/
  graph : Graph
  /-- The digests of the files that are new or have changed. -/
  digests : List (String × String) := []
  /-- The searched nodes that new files brought. -/
  addedIds : List NodeId := []
  /-- The searched nodes of the files that have changed, before and after. -/
  updatedIds : List NodeId := []
  /-- The number of new files. -/
  addedFiles : Nat := 0
  /-- The number of files that have changed. -/
  updatedFiles : Nat := 0

/-- The searched nodes of a file. -/
def searchedIn (g : Graph) (path : String) : List NodeId :=
  (g.nodes.filter fun (_, n) => n.filePath == some path && n.isSearchable).map (·.1)

/-- The next file: a new one is added below its directories, and one with another digest is added again. -/
def indexFile (s : Source) (disk : Entry) (known : List (String × String)) (p : Progress) (parts : List String) :
    Except Failure Progress :=
  let path := relativeText parts
  let parent : NodeId := some (Path.relative parts).parent.toString
  let add (g : Graph) : Except Failure Graph :=
    let edits := g.addFile s disk parts (s.absolute parts) path parent
    match edits.failure with
    | some f => .error f
    | none => .ok (g.applyAll edits.list)
  match fileDigest? disk parts with
  | none => .ok p
  | some digest =>
    match known.lookup path with
    | none =>
      let before := p.graph.applyAll (p.graph.addFolders (.relative parts))
      (add before).map fun g =>
        { p with
          graph := g
          digests := p.digests ++ [(path, digest)]
          addedIds := p.addedIds ++ (searchedIn g path).filter fun id => !before.contains id
          addedFiles := p.addedFiles + 1 }
    | some old =>
      if old = digest then .ok p
      else
        (add p.graph).map fun g =>
          { p with
            graph := g
            digests := p.digests ++ [(path, digest)]
            updatedIds := p.updatedIds ++ searchedIn p.graph path ++ searchedIn g path
            updatedFiles := p.updatedFiles + 1 }

/-- What indexing the changes did. -/
structure Changes where
  /-- The number of new files. -/
  addedFiles : Nat
  /-- The number of files that have changed. -/
  updatedFiles : Nat
  /-- The number of files that are gone. -/
  removedFiles : Nat
  /-- The number of searched nodes of the files that are gone. -/
  removedNodes : Nat
  /-- The number of searched nodes that were brought up to date. -/
  updatedNodes : Nat
  /-- How many nodes of each kind the project has. -/
  stats : Stats

/-- The index after the nodes of files that are gone were removed, and new and changed ones brought up to date. -/
def updateIndex (removed changed : List NodeId) (delta : Int) (c : Connection R) :
    Except Failure Unit × Session R :=
  match ({ connection := c } : Session R).remove removed with
  | (.error f, s) => (.error f, s)
  | (.ok (), s) => s.update changed delta

/-- What has been found in the files is saved, and the index brought up to date for the searched nodes `changed`: what
was done, and the tables. Files that are gone lose their digests, but the graph that is saved still has their nodes. -/
def Progress.save (p : Progress) (limits : Limits) (files : List (List String)) (changed : List NodeId)
    (t : Tables R) : Except Failure Changes × Tables R :=
  let paths := files.map relativeText
  let gone := (t.files.map (·.1)).filter fun path => !paths.contains path
  let removed := gone.flatMap (searchedIn p.graph)
  let delta : Int := p.addedIds.length - removed.length
  match ({ committed := t, limits } : Connection R).deleteFiles gone false with
  | (.error f, c) => (.error f, c.close.committed)
  | (.ok (), c) =>
    match c.saveGraph p.graph with
    | (.error f, c) => (.error f, c.close.committed)
    | (.ok (), c) =>
      match c.saveDigests p.digests with
      | (.error f, c) => (.error f, c.close.committed)
      | (.ok (), c) =>
        let (outcome, session) := updateIndex removed changed delta c
        let changes : Changes :=
          { addedFiles := p.addedFiles, updatedFiles := p.updatedFiles, removedFiles := gone.length
            removedNodes := removed.length, updatedNodes := changed.length
            stats := p.graph.stats Graph.rootKey }
        (outcome.map fun _ => changes, session.close)

/-- The changes of a project indexed, with its source files met in some order, and the declarations that are to be
brought up to date put in another order: what was done, and the tables. -/
def indexChangesIn (arrange : List NodeId → List NodeId) (s : Source) (disk : Entry) (files : List (List String))
    (t : Tables R) : Except Failure Changes × Tables R :=
  match files.foldlM (indexFile s disk t.files) { graph := t.graph } with
  | .error f => (.error f, t)
  | .ok p => p.save s.limits files (arrange (p.addedIds ++ p.updatedIds).eraseDups) t

/-- The changes of a project indexed, with its source files met in some order. -/
def indexChangesAlong (s : Source) (disk : Entry) (files : List (List String)) (t : Tables R) :
    Except Failure Changes × Tables R :=
  indexChangesIn id s disk files t

/-- The changes of a project indexed. -/
def indexChanges (s : Source) (disk : Entry) (t : Tables R) : Except Failure Changes × Tables R :=
  indexChangesAlong s disk (sourceFiles disk) t

end CodeAtlas
