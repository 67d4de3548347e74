import CodeAtlas.Search.Index
import CodeAtlas.Store.Connection

/-!
# The search engine

A search engine works on a connection. It remembers how rare the terms are, how many nodes are searched, and the
results of earlier searches. The index is built anew for all nodes, or brought up to date for some of them: then the
rarity of their terms is computed anew only if more than a twentieth of the nodes has changed, and a new term counts
as a term of one node.

Each operation gives its outcome and the session after it, also when it fails.

## Main definitions

* `Engine`: what a search engine remembers.
* `Session`: a search engine with its connection.
* `Session.build`, `Session.update`, `Session.remove`: changes of the index.
* `Session.search`: the nodes that match a query, best first.
-/

namespace CodeAtlas.Search

open Store

/-- What a search engine remembers. -/
structure Engine (R : Type) where
  /-- How rare the terms are. -/
  rarity : List (String × R) := []
  /-- How many nodes are searched. -/
  total : Int := 0
  /-- The results of earlier searches. -/
  results : List (String × List (Node × R)) := []
  /-- Whether the rarities have been read from the database. -/
  loaded : Bool := false

/-- A search engine with its connection. -/
structure Session (R : Type) where
  /-- The connection. -/
  connection : Connection R := {}
  /-- The engine. -/
  engine : Engine R := {}

variable {R : Type}

/-- A table of pairs with a key put in its place, or at the end. -/
def putValue {V : Type} (key : String) (value : V) : List (String × V) → List (String × V)
  | [] => [(key, value)]
  | (k, v) :: rest => if k = key then (key, value) :: rest else (k, v) :: putValue key value rest

/-- A table of pairs with all pairs of another one put in their places. -/
def putAll {V : Type} (table : List (String × V)) (pairs : List (String × V)) : List (String × V) :=
  if table.isEmpty then pairs else pairs.foldl (fun t (key, value) => putValue key value t) table

namespace Engine

/-- The engine with the rarities and the number of nodes as the tables have them. -/
def load (e : Engine R) (t : Tables R) : Engine R :=
  { e with rarity := putAll e.rarity t.rarity, total := t.searchable.length, loaded := true }

/-- The engine without the results of earlier searches. -/
def forget (e : Engine R) : Engine R :=
  { e with results := [] }

end Engine

/-- The name of a search among earlier ones. -/
def searchKey (query : String) (limit : Int) : String :=
  query ++ ":" ++ toString limit

/-- Up to how many identifiers are looked up one by one. -/
def lookupLimit : Nat := 8

/-- The searched rows with some identifiers: a few in the order of their identifiers, many in the order of the
table. -/
def chosenRows (t : Tables R) (ids : List NodeId) : List NodeRow :=
  let chosen := t.searchable.filter fun r => r.id.isSome && ids.contains r.id
  if ids.length ≤ lookupLimit then chosen.mergeSort fun a b => Tables.idBefore a.id b.id else chosen

/-- Whether the rarities are computed anew when the number of nodes has changed to `total` by `delta`: more than a
twentieth has changed. Numbers are exact here. A total beyond the range of doubles, which no table has, could not be
compared in doubles: it would overflow, and that failure is not part of the model. -/
def needsRecount (total delta : Int) : Bool :=
  0 < total && total < 20 * (delta.natAbs : Int)

/-- The number of different nodes of the index that have a term. -/
def indexedCount (t : Tables R) (term : String) : Nat :=
  ((t.terms.filter (·.term == term)).filterMap (·.node)).eraseDups.length

/-- The best entries: all but the last `-limit` if the limit is negative. -/
def cutAtLimit {α : Type} (limit : Int) (xs : List α) : List α :=
  if 0 ≤ limit then xs.take limit.toNat else xs.take (xs.length - limit.natAbs)

section Engine

variable [Scalar R]

/-- The scores with an amount added to the score of a node. -/
def addScore (node : NodeId) (amount : R) : List (NodeId × R) → List (NodeId × R)
  | [] => [(node, amount)]
  | (n, s) :: rest => if n = node then (n, Scalar.add s amount) :: rest else (n, s) :: addScore node amount rest

/-- The scores of all nodes that have one of some terms, in the order in which the nodes are met: term by term. -/
def scores (t : Tables R) (weights : List (String × R)) : List (NodeId × R) :=
  let terms := (weights.map (·.1)).eraseDups.mergeSort fun a b => a ≤ b
  terms.foldl (fun scores term =>
    match weights.lookup term with
    | some w => (t.terms.filter (·.term == term)).foldl (fun s r => addScore r.node (Scalar.mul r.weight w) s) scores
    | none => scores) []

/-- The scores, greatest first. Nodes with equal scores keep their order. -/
def ranked (scores : List (NodeId × R)) : List (NodeId × R) :=
  scores.mergeSort fun a b => !Scalar.less a.2 b.2

/-- The greatest number of a table. -/
def greatest : List (String × R) → R
  | [] => Scalar.one
  | (_, x) :: rest => rest.foldl (fun m (_, y) => Scalar.max m y) x

/-- A score in relation to the greatest possible one. -/
def normalized (greatestScore score : R) : R :=
  if Scalar.less Scalar.zero greatestScore then Scalar.min (Scalar.div score greatestScore) Scalar.one
  else Scalar.zero

namespace Session

/-- The session with the index built for all nodes. -/
def build (s : Session R) : Except Failure Unit × Session R :=
  let engine : Engine R := { total := s.engine.total }
  if s.connection.isOpen then
    let documents := s.connection.view.searchable.map Document.ofRow
    let table : List (String × R) := rarityTable documents
    let change (t : Tables R) : Tables R := { t with terms := termRows documents, rarity := table }
    (.ok (), ⟨(s.connection.write change).commit, { engine with rarity := table, total := documents.length }⟩)
  else (.error .closed, { s with engine })

/-- The engine and the tables with the rarities of some terms. -/
def learn (values : List (String × R)) (e : Engine R) (t : Tables R) : Engine R × Tables R :=
  ({ e with rarity := values.foldl (fun table (term, x) => putValue term x table) e.rarity },
   values.foldl (fun t (term, x) => t.putRarity term x) t)

/-- The rarities that some documents, about to be added to the index, bring with them. -/
def newRarities (documents : List Document) (delta : Int) (e : Engine R) (t : Tables R) :
    Except Failure (List (String × R)) :=
  let terms := allTerms documents
  if needsRecount e.total delta then
    .ok (terms.map fun term => (term, rarity e.total (indexedCount t term + documentCount documents term)))
  else
    match terms.filter fun term => !e.rarity.any (·.1 == term) with
    | [] => .ok []
    | unknown => if e.total + 1 ≤ 0 then .error .logarithmDomain else .ok (unknown.map fun term => (term, rarity e.total 1))

/-- The session with the index brought up to date for some nodes, after the number of nodes has changed by `delta`.
If a logarithm is not defined, the terms of the nodes are gone from the index and the transaction stays open. -/
def update (s : Session R) (ids : List NodeId) (delta : Int) : Except Failure Unit × Session R :=
  if ids.isEmpty then (.ok (), s)
  else
    let engine := s.engine.forget
    if !s.connection.isOpen then (.error .closed, { s with engine })
    else if s.connection.limits.maxVariables < ids.length then (.error .tooManyVariables, { s with engine })
    else
      let dropped := s.connection.write (·.dropTerms ids)
      let t := dropped.view
      let rows := chosenRows t ids
      if rows.isEmpty then (.ok (), ⟨dropped.commit, engine⟩)
      else
        let loaded := if engine.rarity.isEmpty then engine.load t else engine
        let counted := { loaded with total := loaded.total + delta }
        let documents := rows.map Document.ofRow
        match newRarities documents delta counted t with
        | .error f => (.error f, ⟨dropped, counted⟩)
        | .ok values =>
          let (engine, t) := learn values counted t
          (.ok (), ⟨(dropped.write fun _ => { t with terms := t.terms ++ termRows documents }).commit, engine⟩)

/-- The session with some nodes removed from the index. -/
def remove (s : Session R) (ids : List NodeId) : Except Failure Unit × Session R :=
  if ids.isEmpty then (.ok (), s)
  else
    let engine := s.engine.forget
    if !s.connection.isOpen then (.error .closed, { s with engine })
    else if s.connection.limits.maxVariables < ids.length then (.error .tooManyVariables, { s with engine })
    else (.ok (), ⟨(s.connection.write (·.dropTerms ids)).commit, engine⟩)

/-- The nodes that match a query, best first, with scores between zero and one. A search that found something is
remembered. -/
def search (s : Session R) (query : String) (limit : Int) : Except Failure (List (Node × R)) × Session R :=
  let key := searchKey query limit
  let terms := tokenize query
  match s.engine.results.lookup key with
  | some results => (.ok results, s)
  | none =>
    if terms.isEmpty then (.ok [], s)
    else if !s.engine.loaded && !s.connection.isOpen then (.error .closed, s)
    else
      let t := s.connection.view
      let engine := if s.engine.loaded then s.engine else s.engine.load t
      let s := { s with engine }
      let weights := terms.filterMap fun term =>
        match engine.rarity.lookup term with
        | some x => if Scalar.less Scalar.zero x then some (term, x) else none
        | none => none
      if weights.isEmpty then (.ok [], s)
      else if !s.connection.isOpen then (.error .closed, s)
      else if s.connection.limits.maxVariables < weights.length then (.error .tooManyVariables, s)
      else
        let best := cutAtLimit limit (ranked (scores t weights))
        if best.isEmpty then (.ok [], s)
        else if s.connection.limits.maxVariables < best.length then (.error .tooManyVariables, s)
        else
          let most := Scalar.mul (Scalar.ratio terms.length 1) (greatest engine.rarity)
          let results := best.filterMap fun (id, score) =>
            (t.row? id).map fun r => (r.toNode [], normalized most score)
          (.ok results, { s with engine := { engine with results := engine.results ++ [(key, results)] } })

end Session

end Engine

end CodeAtlas.Search
