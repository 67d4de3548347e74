import CodeAtlas.Store.Statement

/-!
# Connections

A connection shows the tables of a database as its own transaction has changed them. A change opens a transaction
if none is open; a commit makes the changes last, and a rollback drops them. Saving a graph and deleting several
files are transactions of their own, so they fail while another one is open. An operation on a closed connection
fails.

Each operation gives its outcome and the connection after it, also when it fails.

## Main definitions

* `Connection`: connections.
* `Connection.write`, `Connection.commit`, `Connection.rollback`: transactions.
* `Connection.execute`, `Connection.executeAll`, `Connection.guarded`: statements.
* `Connection.ask`, `Connection.statsOfAll`: questions.
* `Connection.saveGraph`, `Connection.saveDigest`, `Connection.deleteFile`, `Connection.deleteFiles`,
  `Connection.compact`: changes.
-/

namespace CodeAtlas.Store

/-- A connection to a database. -/
structure Connection (R : Type) where
  /-- The tables as all connections see them. -/
  committed : Tables R := {}
  /-- The tables as changed by the open transaction, if there is one. -/
  pending : Option (Tables R) := none
  /-- Whether the connection is open. -/
  isOpen : Bool := true
  /-- What the build of the database limits. -/
  limits : Limits := .standard

namespace Connection

variable {R : Type}

/-- The tables as the connection sees them. -/
def view (c : Connection R) : Tables R :=
  c.pending.getD c.committed

/-- A change within a transaction. -/
def write (c : Connection R) (change : Tables R → Tables R) : Connection R :=
  { c with pending := some (change c.view) }

/-- The end of a transaction that keeps its changes. -/
def commit (c : Connection R) : Connection R :=
  { c with committed := c.view, pending := none }

/-- The end of a transaction that drops its changes. -/
def rollback (c : Connection R) : Connection R :=
  { c with pending := none }

/-- The connection closed. An open transaction is dropped. -/
def close (c : Connection R) : Connection R :=
  { c.rollback with isOpen := false }

/-- A new connection to the same database. -/
def reopen (c : Connection R) : Connection R :=
  { committed := c.committed, limits := c.limits }

/-- The answer to a question about the tables. -/
def ask {α : Type} (c : Connection R) (question : Tables R → α) : Except Failure α :=
  if c.isOpen then .ok (question c.view) else .error .closed

/-- How many nodes of each kind there are at and below each of several identifiers. Each identifier takes a
variable. -/
def statsOfAll (c : Connection R) (ids : List NodeId) : Except Failure (List (NodeId × Stats)) :=
  if ids.isEmpty then .ok []
  else if c.isOpen && c.limits.maxVariables < ids.length then .error .tooManyVariables
  else c.ask (·.statsOfAll ids)

/-- A statement. There is one transaction at a time. A change starts one if none is open, and leaves it open also if
it fails. A change with too many variables is refused before that. -/
def execute (c : Connection R) : Statement → Except Failure Unit × Connection R
  | .start =>
    match c.pending with
    | some _ => (.error .nestedTransaction, c)
    | none => (.ok (), { c with pending := some c.committed })
  | .commit => if c.pending.isSome then (.ok (), c.commit) else (.error (.noTransaction "commit"), c)
  | .rollback => if c.pending.isSome then (.ok (), c.rollback) else (.error (.noTransaction "rollback"), c)
  | .change e =>
    if c.limits.maxVariables < e.variableCount then (.error .tooManyVariables, c)
    else
      match e.apply c.view with
      | .ok t => (.ok (), { c with pending := some t })
      | .error f => (.error f, { c with pending := some c.view })

/-- Statements one after another, up to the first that fails. -/
def executeAll (c : Connection R) : List Statement → Except Failure Unit × Connection R
  | [] => (.ok (), c)
  | s :: rest =>
    match c.execute s with
    | (.ok (), c) => c.executeAll rest
    | (.error f, c) => (.error f, c)

/-- Statements, and a rollback if one of them fails. A rollback that fails itself hides the failure before it. -/
def guarded (c : Connection R) (statements : List Statement) : Except Failure Unit × Connection R :=
  match c.executeAll statements with
  | (.ok (), c) => (.ok (), c)
  | (.error f, c) =>
    match c.execute .rollback with
    | (.ok (), c) => (.error f, c)
    | (.error f', c) => (.error f', c)

/-- The rows of a graph in place of all rows, in a transaction that is started under guard. -/
def saveGraph (c : Connection R) (g : Graph) : Except Failure Unit × Connection R :=
  if c.isOpen then c.guarded (.start :: (replacing g).map .change ++ [.commit]) else (.error .closed, c)

/-- A change that may stay within its transaction. -/
def change (c : Connection R) (f : Tables R → Tables R) (keep : Bool) : Except Failure Unit × Connection R :=
  if c.isOpen then (.ok (), if keep then (c.write f).commit else c.write f) else (.error .closed, c)

/-- The digest of a file. -/
def saveDigest (c : Connection R) (path digest : String) (keep : Bool) : Except Failure Unit × Connection R :=
  c.change (·.putDigest path digest) keep

/-- The digests of several files. -/
def saveDigests (c : Connection R) (digests : List (String × String)) : Except Failure Unit × Connection R :=
  if digests.isEmpty then (.ok (), c)
  else c.change (fun t => digests.foldl (fun t (path, digest) => t.putDigest path digest) t) true

/-- A file with its nodes deleted. -/
def deleteFile (c : Connection R) (path : String) (keep : Bool) : Except Failure Unit × Connection R :=
  c.change (·.dropFiles [path]) keep

/-- The database made as small as possible. -/
def compact (c : Connection R) : Except Failure Unit × Connection R :=
  if c.isOpen then
    if c.pending.isSome then (.error .compactInTransaction, c) else (.ok (), c)
  else (.error .closed, c)

/-- Several files with their nodes deleted, in a transaction that is started before the guard, and then, if that is
asked for, the database made small. Each path takes two variables. -/
def deleteFiles (c : Connection R) (paths : List String) (compacted : Bool) : Except Failure Unit × Connection R :=
  if paths.isEmpty then (.ok (), c)
  else if c.isOpen then
    match c.execute .start with
    | (.error f, c) => (.error f, c)
    | (.ok (), c) =>
      match c.guarded ((deleting paths).map .change ++ [.commit]) with
      | (.error f, c) => (.error f, c)
      | (.ok (), c) => if compacted then c.compact else (.ok (), c)
  else (.error .closed, c)

end Connection

end CodeAtlas.Store
