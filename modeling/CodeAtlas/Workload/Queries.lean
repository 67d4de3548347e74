import CodeAtlas.Search.Engine

/-!
# Made-up searches

Made-up functions have names of three words from a short list, so that each word occurs in many names. They are
searched for by three words at a time.

## Main definitions

* `queryNodes`: the functions.
* `queries`: the searches.
* `runQueries`: the results of the searches.
-/

namespace CodeAtlas.Workload

open Search Store

/-- The words. -/
def queryWords : List String :=
  ["parse", "compute", "handle", "request", "token", "search", "index", "graph", "node", "entity"]

/-- A word, counted around the list. -/
def queryWord (i : Nat) : String :=
  queryWords.getD (i % queryWords.length) ""

/-- The name of a function. -/
def queryName (i : Nat) : String :=
  queryWord i ++ "_" ++ queryWord (i + 3) ++ (queryWord (i + 7)).capitalize ++ "Item"

/-- The node of a function. -/
def queryNode (i : Nat) : Node where
  id := some ("src/items.py:" ++ queryName i ++ toString i)
  name := some (queryName i)
  kind := some "function"
  parent := some "src/items.py"
  filePath := some "src/items.py"
  firstLine := some i
  lastLine := some (i + 1)
  language := some "python"

/-- Some functions. -/
def queryNodes (count : Nat) : List Node :=
  (List.range count).map queryNode

/-- The searches: each word with two others, all of that three times, three groups of words, a stop word, and a word
that does not occur. -/
def queries : List String :=
  let around := (List.range queryWords.length).map fun i =>
    Text.joinWith " " [queryWord i, queryWord (i + 1), queryWord (i + 4)]
  around ++ around ++ around ++ ["parse compute handle", "request token search", "graph node entity", "the", "missing"]

/-- The number of results of a search. -/
def queryLimit : Int := 10

/-- The results of some searches, one after the other. -/
def searchAll (s : Session Float) : List String → Except Failure (List (List (Node × Float)))
  | [] => .ok []
  | query :: rest =>
    match s.search query queryLimit with
    | (.error f, _) => .error f
    | (.ok found, s) => (searchAll s rest).map (found :: ·)

/-- The results of the searches among some functions. -/
def runQueries (count : Nat) : Except Failure (List (List (Node × Float))) :=
  let g : Graph := ⟨(queryNodes count).map fun n => (n.id, n)⟩
  match ({} : Connection Float).saveGraph g with
  | (.error f, _) => .error f
  | (.ok (), c) =>
    match ({ connection := c } : Session Float).build with
    | (.error f, _) => .error f
    | (.ok (), s) => searchAll s queries

end CodeAtlas.Workload
