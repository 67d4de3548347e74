import Mathlib
import CodeAtlas.Proofs.Search.Order

/-!
# What each operation of a search session does

Every operation of a session is described once, with all its outcomes, so that no other proof has to open it. Building
the index always ends well on an open connection. Bringing the index up to date takes the terms of the nodes out first;
then there is nothing to put in, or a logarithm is undefined, or new rarities and terms are put in. A search answers from
memory, or from what the tables hold, with the rarities that the engine knows.

## Main definitions

* `Call`, `Session.run`: sequences of operations
* `Session.counting`: the engine that brings the index up to date
* `Updated`: what bringing the index up to date can come to
* `find`: what the tables hold for some terms, with given rarities
* `greatestScore`: what a score is taken in relation to
* `Searched`: what a search can come to

## Main results

* `eq_of_find_eq_ok`: what the tables hold, if they are asked with success
* `Session.updated`, `Session.searched`: all outcomes of an update and of a search
* `Session.search_anew`: the outcome of a search with a new engine
-/

namespace CodeAtlas

open Store Search

namespace Store.Connection

variable {R : Type} (c : Connection R) (change : Tables R → Tables R)

@[simp] theorem view_write : (c.write change).view = change c.view := rfl

@[simp] theorem view_commit : c.commit.view = c.view := rfl

end Store.Connection

namespace Search

/-- A call of an operation of a session. -/
inductive Call where
  /-- The index is built for all nodes. -/
  | build
  /-- The index is brought up to date for some nodes, after their number has changed. -/
  | update (ids : List NodeId) (delta : Int)
  /-- Some nodes are removed from the index. -/
  | remove (ids : List NodeId)
  /-- Nodes that match a query are looked for. -/
  | search (query : String) (limit : Int)

variable {R : Type} [Scalar R]

/-- The rarities of those terms that have a positive one. -/
def weigh (known : List (String × R)) (terms : List String) : List (String × R) :=
  terms.filterMap fun term => ((known.lookup term).filter (Scalar.less Scalar.zero)).map fun x => (term, x)

/-- What the tables hold for some terms, with given rarities. -/
def find (c : Connection R) (known : List (String × R)) (terms : List String) (limit : Int) :
    Except Failure (List (Node × R)) :=
  let weights := weigh known terms
  if weights.isEmpty then .ok []
  else if !c.isOpen then .error .closed
  else if c.limits.maxVariables < weights.length then .error .tooManyVariables
  else
    let best := cutAtLimit limit (ranked (scores c.view weights))
    if best.isEmpty then .ok []
    else if c.limits.maxVariables < best.length then .error .tooManyVariables
    else
      let most := Scalar.mul (Scalar.ratio terms.length 1) (greatest known)
      .ok (best.filterMap fun entry => (c.view.row? entry.1).map fun r => (r.toNode [], normalized most entry.2))

/-- The score of a node that would have all of some terms as often as possible, if each term were the rarest one. -/
def greatestScore (known : List (String × R)) (terms : List String) : R :=
  Scalar.mul (Scalar.ratio terms.length 1) (greatest known)

/-- **Whatever is found** are the rows of the best scores. -/
theorem eq_of_find_eq_ok {c : Connection R} {known : List (String × R)} {terms : List String} {limit : Int}
    {found : List (Node × R)} (h : find c known terms limit = .ok found) :
    found = (cutAtLimit limit (ranked (scores c.view (weigh known terms)))).filterMap fun entry =>
      (c.view.row? entry.1).map fun r => (r.toNode [], normalized (greatestScore known terms) entry.2) := by
  unfold find at h
  dsimp only at h
  split at h
  · next hnone =>
    rw [List.isEmpty_iff.mp hnone, ← Except.ok.inj h]
    simp [scores, ranked, cutAtLimit]
  split at h
  · cases h
  split at h
  · cases h
  split at h
  · next hnone =>
    rw [List.isEmpty_iff.mp hnone, ← Except.ok.inj h]
    rfl
  split at h
  · cases h
  exact (Except.ok.inj h).symm

namespace Session

/-- The session after a call, whatever its outcome. -/
def after (s : Session R) : Call → Session R
  | .build => s.build.2
  | .update ids delta => (s.update ids delta).2
  | .remove ids => (s.remove ids).2
  | .search query limit => (s.search query limit).2

/-- The session after some calls. -/
def run (s : Session R) (calls : List Call) : Session R :=
  calls.foldl after s

/-- The session with a new engine. -/
def anew (s : Session R) : Session R :=
  { connection := s.connection }

omit [Scalar R] in
@[simp] theorem connection_anew (s : Session R) : s.anew.connection = s.connection := rfl

/-! ## Building -/

/-- On an open connection the index is built, the engine knows all rarities and nothing else. -/
theorem build_of_isOpen {s : Session R} (hopen : s.connection.isOpen = true) :
    s.build = (.ok (), ⟨(s.connection.write builtTables).commit,
      { rarity := (builtTables s.connection.view).rarity, total := s.connection.view.searchable.length }⟩) := by
  rw [build, if_pos hopen]
  simp only [List.length_map]
  rfl

theorem view_build {s : Session R} (hopen : s.connection.isOpen = true) :
    s.build.2.connection.view = builtTables s.connection.view := by
  rw [build_of_isOpen hopen, Connection.view_commit, Connection.view_write]

/-- Building leaves an open connection open, to the same database. -/
theorem isOpen_build {s : Session R} (hopen : s.connection.isOpen = true) :
    s.build.2.connection.isOpen = true ∧ s.build.2.connection.limits = s.connection.limits := by
  rw [build_of_isOpen hopen]
  exact ⟨hopen, rfl⟩

theorem build_of_closed {s : Session R} (hclosed : s.connection.isOpen = false) :
    s.build = (.error .closed, { s with engine := { total := s.engine.total } }) := by
  simp [build, hclosed]

/-! ## Bringing up to date -/

/-- The engine that brings the index up to date: it reads the rarities and counts the nodes if it knows no rarities, and
then takes the number of nodes to have changed. -/
def counting (s : Session R) (delta : Int) : Engine R :=
  let engine := if s.engine.rarity.isEmpty then s.engine.forget.load s.connection.view else s.engine.forget
  { engine with total := engine.total + delta }

/-- The documents that an update puts into the index. -/
def documentsOf (s : Session R) (ids : List NodeId) : List Document :=
  (chosenRows s.connection.view ids).map Document.ofRow

/-- The tables with some new rarities, and with the terms of documents in place of those of some nodes. -/
def indexedTables (ids : List NodeId) (documents : List Document) (values : List (String × R)) (t : Tables R) :
    Tables R :=
  let learnt := values.foldl (fun t value => t.putRarity value.1 value.2) (t.dropTerms ids)
  { learnt with terms := learnt.terms ++ termRows documents }

/-- An engine with some new rarities. -/
def learning (values : List (String × R)) (e : Engine R) : Engine R :=
  { e with rarity := values.foldl (fun table value => putValue value.1 value.2 table) e.rarity }

/-- What bringing the index up to date can come to. -/
inductive Updated (s : Session R) (ids : List NodeId) (delta : Int) : Except Failure Unit × Session R → Prop
  /-- There is nothing to do. -/
  | nothing (hids : ids = []) : Updated s ids delta (.ok (), s)
  /-- The connection is closed, or there are too many identifiers. -/
  | refused (f : Failure) (hids : ids ≠ [])
      (hrefused : s.connection.isOpen = false ∨ s.connection.limits.maxVariables < ids.length) :
      Updated s ids delta (.error f, { s with engine := s.engine.forget })
  /-- No searched row has one of the identifiers. -/
  | dropped (hids : ids ≠ []) (hopen : s.connection.isOpen = true)
      (hfew : ids.length ≤ s.connection.limits.maxVariables) (hnone : chosenRows s.connection.view ids = []) :
      Updated s ids delta (.ok (), ⟨(s.connection.write (·.dropTerms ids)).commit, s.engine.forget⟩)
  /-- A logarithm is undefined. -/
  | failed (f : Failure) (hids : ids ≠ []) (hopen : s.connection.isOpen = true)
      (hfew : ids.length ≤ s.connection.limits.maxVariables) (hsome : chosenRows s.connection.view ids ≠ [])
      (hvalues : newRarities (s.documentsOf ids) delta (s.counting delta) (s.connection.view.dropTerms ids) = .error f) :
      Updated s ids delta (.error f, ⟨s.connection.write (·.dropTerms ids), s.counting delta⟩)
  /-- Documents are put into the index, with the rarities that they bring. -/
  | indexed (values : List (String × R)) (hids : ids ≠ []) (hopen : s.connection.isOpen = true)
      (hfew : ids.length ≤ s.connection.limits.maxVariables) (hsome : chosenRows s.connection.view ids ≠ [])
      (hvalues : newRarities (s.documentsOf ids) delta (s.counting delta) (s.connection.view.dropTerms ids) = .ok values) :
      Updated s ids delta (.ok (), ⟨(s.connection.write (indexedTables ids (s.documentsOf ids) values)).commit,
        learning values (s.counting delta)⟩)

/-- **All outcomes of bringing the index up to date.** -/
theorem updated (s : Session R) (ids : List NodeId) (delta : Int) : Updated s ids delta (s.update ids delta) := by
  by_cases hids : ids = []
  · subst hids
    exact .nothing rfl
  have hempty : ids.isEmpty = false := by simpa [List.isEmpty_iff] using hids
  unfold update
  simp only [hempty, Bool.false_eq_true, if_false]
  split
  · next hclosed => exact .refused _ hids (Or.inl (by simpa using hclosed))
  next hopen =>
  replace hopen : s.connection.isOpen = true := by simpa using hopen
  split
  · next hmany => exact .refused _ hids (Or.inr hmany)
  next hfew =>
  replace hfew := Nat.not_lt.mp hfew
  split
  · next hnone => exact .dropped hids hopen hfew (List.isEmpty_iff.mp hnone)
  next hsome =>
  replace hsome : chosenRows s.connection.view ids ≠ [] := fun h => hsome (List.isEmpty_iff.mpr h)
  split
  · next f hvalues => exact .failed f hids hopen hfew hsome hvalues
  · next values hvalues => exact .indexed values hids hopen hfew hsome hvalues

/-! ## Removing -/

omit [Scalar R] in
theorem remove_cases (s : Session R) (ids : List NodeId) :
    s.remove ids = (.ok (), s) ∨ (∃ f, s.remove ids = (.error f, { s with engine := s.engine.forget })) ∨
      s.remove ids = (.ok (), ⟨(s.connection.write (·.dropTerms ids)).commit, s.engine.forget⟩) := by
  unfold remove
  split
  · exact Or.inl rfl
  dsimp only
  split
  · exact Or.inr (Or.inl ⟨_, rfl⟩)
  split
  · exact Or.inr (Or.inl ⟨_, rfl⟩)
  · exact Or.inr (Or.inr rfl)

/-! ## Searching -/

/-- The engine that a search computes with: it reads the rarities if that has not been done. -/
def reading (s : Session R) : Engine R :=
  if s.engine.loaded then s.engine else s.engine.load s.connection.view

/-- What a search can come to. -/
inductive Searched (s : Session R) (query : String) (limit : Int) :
    Except Failure (List (Node × R)) × Session R → Prop
  /-- The search is remembered. -/
  | remembered (found : List (Node × R)) (hfound : s.engine.results.lookup (searchKey query limit) = some found) :
      Searched s query limit (.ok found, s)
  /-- The query has no terms. -/
  | empty (hnew : s.engine.results.lookup (searchKey query limit) = none) (hterms : tokenize query = []) :
      Searched s query limit (.ok [], s)
  /-- The rarities cannot be read. -/
  | closed (hnew : s.engine.results.lookup (searchKey query limit) = none) (hterms : tokenize query ≠ [])
      (hunread : s.engine.loaded = false) (hclosed : s.connection.isOpen = false) :
      Searched s query limit (.error .closed, s)
  /-- The tables give an answer that is not remembered, since nothing is found. -/
  | answered (hnew : s.engine.results.lookup (searchKey query limit) = none) (hterms : tokenize query ≠ [])
      (hready : s.engine.loaded = true ∨ s.connection.isOpen = true)
      (hnothing : ∀ found, find s.connection s.reading.rarity (tokenize query) limit = .ok found → found = []) :
      Searched s query limit
        (find s.connection s.reading.rarity (tokenize query) limit, { s with engine := s.reading })
  /-- The tables give an answer that is remembered. -/
  | found (found : List (Node × R)) (hnew : s.engine.results.lookup (searchKey query limit) = none)
      (hterms : tokenize query ≠ []) (hready : s.engine.loaded = true ∨ s.connection.isOpen = true)
      (hfound : find s.connection s.reading.rarity (tokenize query) limit = .ok found) :
      Searched s query limit (.ok found, { s with
        engine := { s.reading with results := s.reading.results ++ [(searchKey query limit, found)] } })

theorem weigh_eq (known : List (String × R)) (terms : List String) :
    weigh known terms = terms.filterMap fun term =>
      match known.lookup term with
      | some x => if Scalar.less Scalar.zero x then some (term, x) else none
      | none => none := by
  refine congrArg (List.filterMap · terms) (funext fun term => ?_)
  cases known.lookup term with
  | none => rfl
  | some x => by_cases hx : Scalar.less Scalar.zero x = true <;> simp [hx]

/-- **All outcomes of a search.** -/
theorem searched (s : Session R) (query : String) (limit : Int) : Searched s query limit (s.search query limit) := by
  unfold search
  dsimp only
  split
  · next found hfound => exact .remembered found hfound
  next hnew =>
  by_cases hterms : tokenize query = []
  · rw [if_pos (List.isEmpty_iff.mpr hterms)]
    exact .empty hnew hterms
  rw [if_neg (mt List.isEmpty_iff.mp hterms)]
  by_cases hclosed : (!s.engine.loaded && !s.connection.isOpen) = true
  · rw [if_pos hclosed]
    simp only [Bool.and_eq_true, Bool.not_eq_true'] at hclosed
    exact .closed hnew hterms hclosed.1 hclosed.2
  rw [if_neg hclosed]
  have hready : s.engine.loaded = true ∨ s.connection.isOpen = true := by
    simpa only [Bool.and_eq_true, Bool.not_eq_true', not_and_or, Bool.not_eq_false] using hclosed
  -- from here on the outcome is that of `find`, and only what is found is remembered
  have hreading : (if s.engine.loaded = true then s.engine else s.engine.load s.connection.view) = s.reading := rfl
  have hanswer : ∀ outcome, find s.connection s.reading.rarity (tokenize query) limit = outcome →
      (∀ found, outcome = .ok found → found = []) →
      Searched s query limit (outcome, { s with engine := s.reading }) := by
    rintro _ rfl hnothing
    exact .answered hnew hterms hready hnothing
  have hempty : ∀ found : List (Node × R), Except.ok (ε := Failure) [] = .ok found → found = [] :=
    fun _ h => (Except.ok.inj h).symm
  have hfailed : ∀ (f : Failure) (found : List (Node × R)), Except.error f = .ok found → found = [] :=
    fun _ _ h => (by cases h)
  have hremember : ∀ found, find s.connection s.reading.rarity (tokenize query) limit = .ok found →
      Searched s query limit (.ok found, { s with
        engine := { s.reading with results := s.reading.results ++ [(searchKey query limit, found)] } }) :=
    fun found hfound => .found found hnew hterms hready hfound
  have hfind := find.eq_1 s.connection s.reading.rarity (tokenize query) limit
  rewrite [hreading]
  simp only [weigh_eq] at hfind
  generalize s.reading = engine at hanswer hremember hfind ⊢
  generalize tokenize query = terms at hanswer hremember hfind ⊢
  split
  · next hweights => exact hanswer _ (hfind.trans (if_pos hweights)) hempty
  next hweights =>
  replace hfind := hfind.trans (if_neg hweights)
  split
  · next hclosed => exact hanswer _ (hfind.trans (if_pos hclosed)) (hfailed _)
  next hopen =>
  replace hfind := hfind.trans (if_neg hopen)
  split
  · next hmany => exact hanswer _ (hfind.trans (if_pos hmany)) (hfailed _)
  next hfew =>
  replace hfind := hfind.trans (if_neg hfew)
  split
  · next hbest => exact hanswer _ (hfind.trans (if_pos hbest)) hempty
  next hbest =>
  replace hfind := hfind.trans (if_neg hbest)
  split
  · next hmany => exact hanswer _ (hfind.trans (if_pos hmany)) (hfailed _)
  · next hfew => exact hremember _ (hfind.trans (if_neg hfew))

/-- A search leaves the connection as it is. -/
theorem connection_search (s : Session R) (query : String) (limit : Int) :
    (s.search query limit).2.connection = s.connection := by
  have h := s.searched query limit
  generalize s.search query limit = result at h ⊢
  cases h <;> rfl

/-- Searches leave the connection as it is. -/
theorem connection_run_search (s : Session R) (queries : List (String × Int)) :
    (s.run (queries.map fun query => .search query.1 query.2)).connection = s.connection := by
  induction queries generalizing s with
  | nil => rfl
  | cons query rest ih => exact (ih _).trans (connection_search s query.1 query.2)

/-- **The outcome of a search with a new engine** depends on the tables only. -/
theorem search_anew (s : Session R) (query : String) (limit : Int) :
    (s.anew.search query limit).1 =
      if tokenize query = [] then .ok []
      else if s.connection.isOpen = false then .error .closed
      else find s.connection s.connection.view.rarity (tokenize query) limit := by
  have hread : s.anew.reading.rarity = s.connection.view.rarity := rfl
  have h := s.anew.searched query limit
  generalize s.anew.search query limit = result at h ⊢
  cases h with
  | remembered found hfound => cases hfound
  | empty _ hterms => rw [if_pos hterms]
  | closed _ hterms _ hclosed =>
    replace hclosed : s.connection.isOpen = false := hclosed
    rw [if_neg hterms, if_pos hclosed]
  | answered _ hterms hready =>
    have hopen : s.connection.isOpen = true := hready.resolve_left Bool.false_ne_true
    rw [if_neg hterms, if_neg (by simp [hopen]), ← hread, connection_anew]
  | found found _ hterms hready hfound =>
    have hopen : s.connection.isOpen = true := hready.resolve_left Bool.false_ne_true
    rw [if_neg hterms, if_neg (by simp [hopen]), ← hread]
    exact hfound.symm

theorem search_anew_of_isOpen {s : Session R} (hopen : s.connection.isOpen = true) (query : String) (limit : Int) :
    (s.anew.search query limit).1 = find s.connection s.connection.view.rarity (tokenize query) limit := by
  rw [search_anew]
  split
  · next hterms =>
    rw [hterms]
    rfl
  · rw [if_neg (by simp [hopen])]

end Session

end Search

end CodeAtlas
