import Mathlib
import CodeAtlas.Proofs.Search.Coherence
import CodeAtlas.Proofs.Search.Uncommitted

/-!
# What happens to the tables

Whatever is done on a connection, its tables change in few ways. A graph or a digest is saved, files are deleted, terms
are taken out of the index, the index is built, or it is brought up to date. A property that each of these steps keeps
holds of all tables that a connection ever has, those that are committed and those that are not.

A search session may also meet with what others do on its connection, and with a new engine in place of its own.

## Main definitions

* `Tables.Step`: the ways in which tables change
* `Connection.Holds`: a property of the committed tables, and of those that are not committed yet
* `Event`, `Session.reactAll`: what a session meets with

## Main results

* `Connection.Holds.perform`: an operation keeps what every step keeps
* `Session.holds_react`: so does everything that a session meets with
* `Session.mem_results_react`: what is remembered was remembered before, or was just found
-/

namespace CodeAtlas

open Store Search

variable {R : Type} [Scalar R]

namespace Store

/-- The ways in which tables change. -/
inductive Tables.Step (t : Tables R) : Tables R → Prop
  | withNodes (rows : List NodeRow) : Step t (t.withNodes rows)
  | putDigest (path digest : String) : Step t (t.putDigest path digest)
  | dropFiles (paths : List String) : Step t (t.dropFiles paths)
  | dropTerms (ids : List NodeId) : Step t (t.dropTerms ids)
  | build : Step t (Session.builtTables t)
  | index (ids : List NodeId) (values : List (String × R)) :
      Step t (Session.indexedTables ids ((chosenRows t ids).map Document.ofRow) values t)

/-- Every step keeps a property of tables. -/
def Tables.Kept (P : Tables R → Prop) : Prop :=
  ∀ ⦃t t' : Tables R⦄, P t → t.Step t' → P t'

namespace Connection

variable {P : Tables R → Prop} {c : Connection R}

omit [Scalar R] in
/-- A property holds of the tables that are committed, and of those that are not committed yet. -/
structure Holds (P : Tables R → Prop) (c : Connection R) : Prop where
  committed : P c.committed
  pending : ∀ t, c.pending = some t → P t

omit [Scalar R] in
theorem holds_of_pending_eq_none (hcommitted : P c.committed) (hpending : c.pending = none) : c.Holds P where
  committed := hcommitted
  pending t ht := by
    rw [hpending] at ht
    cases ht

namespace Holds

omit [Scalar R] in
theorem view (h : c.Holds P) : P c.view := by
  cases hpending : c.pending with
  | none =>
    rw [view_of_pending_eq_none hpending]
    exact h.committed
  | some t =>
    rw [Connection.view, hpending]
    exact h.pending t hpending

omit [Scalar R] in
theorem write (h : c.Holds P) {f : Tables R → Tables R} (hf : P (f c.view)) : (c.write f).Holds P where
  committed := h.committed
  pending t ht := by
    obtain rfl := Option.some.inj ht
    exact hf

omit [Scalar R] in
theorem commit (h : c.Holds P) : c.commit.Holds P :=
  holds_of_pending_eq_none h.view rfl

omit [Scalar R] in
theorem rollback (h : c.Holds P) : c.rollback.Holds P :=
  holds_of_pending_eq_none h.committed rfl

omit [Scalar R] in
theorem change (h : c.Holds P) {f : Tables R → Tables R} (hf : P (f c.view)) (keep : Bool) :
    (c.change f keep).2.Holds P := by
  rw [Connection.change]
  split
  · cases keep with
    | true => exact (h.write hf).commit
    | false => exact h.write hf
  · exact h

theorem saveGraph (hP : Tables.Kept P) (h : c.Holds P) (g : Graph) : (c.saveGraph g).2.Holds P := by
  rw [saveGraph_eq]
  split
  · split
    · exact h.rollback
    · next hpending =>
      split
      · exact holds_of_pending_eq_none (hP h.committed (.withNodes _)) hpending
      · exact h
  · exact h

theorem deleteFiles (hP : Tables.Kept P) (h : c.Holds P) (paths : List String) (compacted : Bool) :
    (c.deleteFiles paths compacted).2.Holds P := by
  rw [deleteFiles_eq_ite]
  split
  · exact h
  split
  · split
    · exact h
    · next hpending =>
      split
      · exact h
      · exact holds_of_pending_eq_none (hP h.committed (.dropFiles paths)) hpending
  · exact h

theorem foldl_putDigest (hP : Tables.Kept P) {t : Tables R} (ht : P t) (digests : List (String × String)) :
    P (digests.foldl (fun t digest => t.putDigest digest.1 digest.2) t) := by
  induction digests generalizing t with
  | nil => exact ht
  | cons digest rest ih => exact ih (hP ht (.putDigest digest.1 digest.2))

theorem dropTerms (hP : Tables.Kept P) (h : c.Holds P) (ids : List NodeId) : (c.write (·.dropTerms ids)).Holds P :=
  h.write (hP h.view (Tables.Step.dropTerms ids))

/-- A call of a search engine keeps what every step keeps. -/
theorem after (hP : Tables.Kept P) {s : Session R} (h : s.connection.Holds P) (call : Call) :
    (s.after call).connection.Holds P := by
  cases call with
  | build =>
    rw [Session.after]
    cases hopen : s.connection.isOpen with
    | true =>
      rw [Session.build_of_isOpen hopen]
      exact (h.write (hP h.view .build)).commit
    | false =>
      rw [Session.build_of_closed hopen]
      exact h
  | update ids delta =>
    have hupdated := s.updated ids delta
    rw [Session.after]
    generalize s.update ids delta = result at hupdated ⊢
    cases hupdated with
    | nothing | refused => exact h
    | dropped => exact (h.dropTerms hP ids).commit
    | failed => exact h.dropTerms hP ids
    | indexed values => exact (h.write (hP h.view (.index ids values))).commit
  | remove ids =>
    rw [Session.after]
    rcases s.remove_cases ids with hremove | ⟨f, hremove⟩ | hremove <;> rw [hremove]
    · exact h
    · exact h
    · exact (h.dropTerms hP ids).commit
  | search query limit =>
    rw [Session.after, Session.connection_search]
    exact h

/-- **An operation keeps what every step keeps.** -/
theorem perform (hP : Tables.Kept P) (h : c.Holds P) (op : Operation R) : (c.perform op).Holds P := by
  cases op with
  | saveGraph g => exact h.saveGraph hP g
  | saveDigest path digest keep => exact h.change (hP h.view (.putDigest path digest)) keep
  | saveDigests digests =>
    rw [Connection.perform, saveDigests]
    split
    · exact h
    · exact h.change (foldl_putDigest hP h.view digests) true
  | deleteFile path keep => exact h.change (hP h.view (.dropFiles [path])) keep
  | deleteFiles paths compacted => exact h.deleteFiles hP paths compacted
  | compact =>
    rw [Connection.perform, compact]
    split
    · split <;> exact h
    · exact h
  | call engine call => exact after hP (s := ⟨c, engine⟩) h call
  | close | reopen => exact holds_of_pending_eq_none h.committed rfl

end Holds

end Connection

end Store

/-! ## What a session meets with -/

/-- What a search session can meet with. -/
inductive Event (R : Type) where
  /-- Its engine is called. -/
  | call (call : Call)
  /-- Something else is done on its connection, maybe by another engine. -/
  | operation (op : Operation R)
  /-- A new engine takes the place of its engine. -/
  | renewal

namespace Search.Session

/-- The session after an event. -/
def react (s : Session R) : Event R → Session R
  | .call call => s.after call
  | .operation op => { s with connection := s.connection.perform op }
  | .renewal => s.anew

/-- The session after some events. -/
def reactAll (s : Session R) (events : List (Event R)) : Session R :=
  events.foldl react s

variable {s : Session R} {P : Tables R → Prop}

/-- **Whatever a session meets with keeps what every step keeps.** -/
theorem holds_react (hP : Tables.Kept P) (h : s.connection.Holds P) (event : Event R) :
    (s.react event).connection.Holds P := by
  cases event with
  | call call => exact h.after hP call
  | operation op => exact h.perform hP op
  | renewal => exact h

/-- **What an engine remembers** after a call was remembered before, or it is what a search has just found. -/
theorem mem_results_after {call : Call} {entry : String × List (Node × R)}
    (h : entry ∈ (s.after call).engine.results) :
    entry ∈ s.engine.results ∨
      ∃ query limit, entry.1 = searchKey query limit ∧ (s.search query limit).1 = .ok entry.2 := by
  cases call with
  | build =>
    rw [after] at h
    cases hopen : s.connection.isOpen with
    | true =>
      rw [build_of_isOpen hopen] at h
      cases h
    | false =>
      rw [build_of_closed hopen] at h
      cases h
  | update ids delta =>
    have hupdated := s.updated ids delta
    rw [after] at h
    generalize s.update ids delta = result at hupdated h
    cases hupdated with
    | nothing => exact Or.inl h
    | refused | dropped => cases h
    | failed | indexed =>
      have hnone := s.counting_results delta
      exact absurd (hnone ▸ h) List.not_mem_nil
  | remove ids =>
    rw [after] at h
    rcases s.remove_cases ids with hremove | ⟨f, hremove⟩ | hremove <;> rw [hremove] at h
    · exact Or.inl h
    · cases h
    · cases h
  | search query limit =>
    rw [after] at h
    have hsearched := s.searched query limit
    generalize hresult : s.search query limit = result at hsearched h
    cases hsearched with
    | remembered | empty | closed => exact Or.inl h
    | answered => exact Or.inl (reading_results (s := s) ▸ h)
    | found found =>
      rcases List.mem_append.mp h with h | h
      · exact Or.inl (reading_results (s := s) ▸ h)
      · obtain rfl := List.mem_singleton.mp h
        exact Or.inr ⟨query, limit, rfl, congrArg Prod.fst hresult⟩

theorem mem_results_react {event : Event R} {entry : String × List (Node × R)}
    (h : entry ∈ (s.react event).engine.results) :
    entry ∈ s.engine.results ∨
      ∃ query limit, entry.1 = searchKey query limit ∧ (s.search query limit).1 = .ok entry.2 := by
  cases event with
  | call call => exact mem_results_after h
  | operation => exact Or.inl h
  | renewal => cases h

end Search.Session

end CodeAtlas
