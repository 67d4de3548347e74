import CodeAtlas.Search.Scalar
import CodeAtlas.Search.Words
import CodeAtlas.Store.Tables

/-!
# The search index

The index holds, for each searched node, how often each of its terms occurs in its text, relative to the most
frequent one, and, for each term, how rare it is among the nodes.

## Main definitions

* `Document`: the identifier and the terms of a node.
* `termWeights`: the relative frequencies of the terms of a text.
* `rarity`: how rare a term is.
* `termRows`, `rarityTable`: the two tables of the index for some documents.
-/

namespace CodeAtlas.Search

open Store

/-- What the index knows of a node. -/
structure Document where
  /-- The identifier. -/
  id : NodeId
  /-- The terms of its text, in order and with repetitions. -/
  terms : List String

/-- The document of a row. -/
def Document.ofRow (r : NodeRow) : Document where
  id := r.id
  terms := tokenize (searchableText (some r.name) r.signature r.docstring)

/-- The documents with one put in place of the one with its identifier, or at the end. -/
def putDocument (d : Document) : List Document → List Document
  | [] => [d]
  | e :: rest => if e.id = d.id then d :: rest else e :: putDocument d rest

/-- The documents, one for each identifier. -/
def onePerId (documents : List Document) : List Document :=
  documents.foldl (fun ds d => putDocument d ds) []

/-- The distinct terms in the order of their first occurrence, with the number of their occurrences. -/
def termCounts (terms : List String) : List (String × Nat) :=
  terms.eraseDups.map fun t => (t, terms.count t)

variable {R : Type} [Scalar R]

/-- The distinct terms with the number of their occurrences, relative to the greatest such number. -/
def termWeights (terms : List String) : List (String × R) :=
  let counts := termCounts terms
  let most := (counts.map (·.2)).foldl max 0
  counts.map fun (t, n) => (t, Scalar.ratio n most)

/-- The rows of the terms of a document. -/
def Document.rows (d : Document) : List (TermRow R) :=
  (termWeights d.terms).map fun (term, weight) => { node := d.id, term, weight }

/-- The rows of the terms of some documents. -/
def termRows (documents : List Document) : List (TermRow R) :=
  (onePerId documents).flatMap Document.rows

/-- In how many documents a term occurs. -/
def documentCount (documents : List Document) (term : String) : Nat :=
  documents.countP (·.terms.contains term)

/-- How rare a term is that occurs in `found` of `total` documents. -/
def rarity (total found : Int) : R :=
  Scalar.add (Scalar.log (Scalar.ratio (total + 1) (found + 1))) Scalar.one

/-- All terms of some documents, each once. -/
def allTerms (documents : List Document) : List String :=
  (documents.flatMap (·.terms)).eraseDups

/-- How rare each term of some documents is. -/
def rarityTable (documents : List Document) : List (String × R) :=
  (allTerms documents).map fun t => (t, rarity documents.length (documentCount documents t))

end CodeAtlas.Search
