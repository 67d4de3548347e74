import CodeAtlas.Failure
import CodeAtlas.Path

/-!
# Files and directories

A project is a tree of files and directories. The items of a directory are kept in the order of their names.
Files and directories can be locked; locks only count for an ordinary user.

## Main definitions

* `Entry`: files and directories.
* `Entry.write`, `Entry.remove`, `Entry.setLock`: changes.
* `Entry.look`: what stands at a path.
* `Entry.readFile`: the bytes of a file.
-/

namespace CodeAtlas

/-- A file or a directory. -/
inductive Entry where
  /-- A file. -/
  | file (content : ByteArray) (locked : Bool)
  /-- A directory with its items by name. -/
  | folder (items : List (String × Entry)) (locked : Bool)

namespace Entry

/-- An empty directory. -/
def empty : Entry := .folder [] false

/-- Whether an entry is a directory. -/
def isFolder : Entry → Bool
  | .folder _ _ => true
  | .file _ _ => false

/-- Whether an entry is locked. -/
def isLocked : Entry → Bool
  | .folder _ locked => locked
  | .file _ locked => locked

/-- The items of a directory. -/
def items : Entry → List (String × Entry)
  | .folder items _ => items
  | .file _ _ => []

/-- The items with one of them put in place of the one with its name, or at its place in the order of names. -/
def putItem (name : String) (e : Entry) : List (String × Entry) → List (String × Entry)
  | [] => [(name, e)]
  | (n, d) :: rest =>
    if n = name then (name, e) :: rest
    else if name < n then (name, e) :: (n, d) :: rest
    else (n, d) :: putItem name e rest

/-- The entry with a change at a path. Missing directories on the way are made; the change sees what stands at the
path, and leaving nothing there removes it. -/
def alter (change : Option Entry → Option Entry) : List String → Option Entry → Option Entry
  | [], e => change e
  | part :: parts, e =>
    let here := e.getD empty
    match here with
    | .file _ _ => e
    | .folder items locked =>
      match alter change parts (items.lookup part) with
      | some d => some (.folder (putItem part d items) locked)
      | none => some (.folder (items.filter (·.1 != part)) locked)

/-- The entry with a change at a path. -/
def change (parts : List String) (f : Option Entry → Option Entry) (e : Entry) : Entry :=
  (alter f parts (some e)).getD empty

/-- The entry with a file written, and its directories made. -/
def write (parts : List String) (content : ByteArray) (e : Entry) : Entry :=
  e.change parts fun
    | some (.file _ locked) => some (.file content locked)
    | some (.folder items locked) => some (.folder items locked)
    | none => some (.file content false)

/-- The entry with a directory made. -/
def makeFolder (parts : List String) (e : Entry) : Entry :=
  e.change parts fun d => some (d.getD empty)

/-- What stands at a path, without double dots and locks. -/
def find? : Entry → List String → Option Entry
  | e, [] => some e
  | e, part :: parts => (e.items.lookup part).bind fun d => find? d parts

/-- The entry with what stands at a path removed. -/
def remove (parts : List String) (e : Entry) : Entry :=
  if (e.find? parts).isSome then e.change parts fun _ => none else e

/-- The entry with a lock set or taken away. -/
def setLock (parts : List String) (locked : Bool) (e : Entry) : Entry :=
  if (e.find? parts).isSome then
    e.change parts fun
      | some (.file content _) => some (.file content locked)
      | some (.folder items _) => some (.folder items locked)
      | none => none
  else e

/-- What stands at a path below `here`, whose enclosing directories are `above`, the nearest one first. A locked
directory on the way is an obstacle for an ordinary user, which is the outer `none`. -/
def walk (asUser : Bool) (above : List Entry) (here : Entry) : List String → Option (Option Entry)
  | [] => some (some here)
  | part :: parts =>
    match here with
    | .file _ _ => some none
    | .folder items locked =>
      if asUser && locked then none
      else if part = ".." then
        match above with
        | [] => some none
        | outer :: rest => walk asUser rest outer parts
      else
        match items.lookup part with
        | some d => walk asUser (here :: above) d parts
        | none => some none

/-- What stands at a path below a project, which is refused behind a locked directory. -/
def look (asUser : Bool) (root : Entry) (path : Path) (parts : List String) : Except Failure (Option Entry) :=
  match root.walk asUser [] parts with
  | some found => .ok found
  | none => .error (.denied path.toString)

/-- The bytes of a file, if it may be opened. -/
def content? (asUser : Bool) : Entry → Option ByteArray
  | .file content locked => if asUser && locked then none else some content
  | .folder _ _ => none

/-- The items of a directory, if it may be listed. -/
def listing? (asUser : Bool) : Entry → Option (List (String × Entry))
  | .folder items locked => if asUser && locked then none else some items
  | .file _ _ => none

/-- The bytes of the file at a path, if there is one that may be opened. -/
def readFile (asUser : Bool) (root : Entry) (parts : List String) : Option ByteArray :=
  (root.walk asUser [] parts).join.bind (content? asUser)

end Entry

end CodeAtlas
