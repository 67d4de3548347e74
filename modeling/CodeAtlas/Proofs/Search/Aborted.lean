import Mathlib
import CodeAtlas.Proofs.Search.Rebuild

/-!
# What an update of the index leaves when it fails

Bringing the index up to date first takes the terms of the nodes out of the index and then computes rarities. A closed
connection and too many identifiers are found out before anything is written. A logarithm of a number of nodes that is
negative is found out in between: the terms are gone then, and the transaction stays open. Nothing is lost for good yet,
a rollback would bring the terms back. But the next write that ends its transaction makes the loss last.

## Main definitions

* `Session.updateFailure?`: why an update fails, said without carrying it out

## Main results

* `Session.update_eq_error_iff`: when an update fails, and why
* `Session.update_error_cases`: the connection after a failed update
* `failed_update_atomic_iff`: which failed updates leave everything as it was
-/

namespace CodeAtlas

open Store Search

namespace Search.Session

variable {R : Type} [Scalar R] {s : Session R} {ids : List NodeId} {delta : Int} {f : Failure}

/-- Why bringing the index up to date fails, if it does: the connection is closed, there are too many identifiers, or
the number of nodes is taken to be negative and some term has no rarity yet. -/
def updateFailure? (s : Session R) (ids : List NodeId) (delta : Int) : Option Failure :=
  if ids = [] then none
  else if s.connection.isOpen = false then some .closed
  else if s.connection.limits.maxVariables < ids.length then some .tooManyVariables
  else if s.countedFrom + delta < 0 ∧
      ∃ term ∈ allTerms (s.documentsOf ids), term ∉ (s.counting delta).rarity.map (·.1) then some .logarithmDomain
  else none

theorem update_of_closed (hids : ids ≠ []) (hclosed : s.connection.isOpen = false) :
    s.update ids delta = (.error .closed, { s with engine := s.engine.forget }) := by
  simp [update, hids, hclosed]

theorem update_of_tooMany (hids : ids ≠ []) (hopen : s.connection.isOpen = true)
    (hmany : s.connection.limits.maxVariables < ids.length) :
    s.update ids delta = (.error .tooManyVariables, { s with engine := s.engine.forget }) := by
  simp [update, hids, hopen, hmany]

/-- Rarities cannot be computed for one reason only. -/
theorem eq_logarithmDomain_of_newRarities {ds : List Document} {e : Engine R} {t : Tables R}
    (h : newRarities ds delta e t = .error f) : f = .logarithmDomain := by
  by_cases hrecount : needsRecount e.total delta = true
  · rw [newRarities_of_needsRecount ds t hrecount] at h
    cases h
  · rw [newRarities, if_neg hrecount] at h
    cases hunknown : (allTerms ds).filter fun term => !e.rarity.any (·.1 == term) with
    | nil =>
      simp only [hunknown] at h
      cases h
    | cons term rest =>
      simp only [hunknown] at h
      split at h
      · exact (Except.error.inj h).symm
      · cases h

/-- On an open connection, and with few identifiers, an update that fails stops after the terms are gone. -/
theorem update_of_error (hopen : s.connection.isOpen = true)
    (hfew : ids.length ≤ s.connection.limits.maxVariables) (h : (s.update ids delta).1 = .error f) :
    s.update ids delta = (.error .logarithmDomain, ⟨s.connection.write (·.dropTerms ids), s.counting delta⟩) := by
  have hcases := s.updated ids delta
  generalize s.update ids delta = result at h hcases ⊢
  cases hcases with
  | nothing => cases h
  | refused f hids hrefused =>
    rcases hrefused with hclosed | hmany
    · rw [hopen] at hclosed
      cases hclosed
    · exact absurd hmany (Nat.not_lt.mpr hfew)
  | dropped => cases h
  | failed f hids hopen hfew hsome hvalues => rw [eq_logarithmDomain_of_newRarities hvalues]
  | indexed => cases h

/-- **When an update fails, and why.** -/
theorem update_eq_error_iff : (s.update ids delta).1 = .error f ↔ s.updateFailure? ids delta = some f := by
  unfold updateFailure?
  by_cases hids : ids = []
  · subst hids
    simp [update]
  rw [if_neg hids]
  by_cases hclosed : s.connection.isOpen = false
  · rw [if_pos hclosed, update_of_closed hids hclosed, Except.error.injEq, Option.some.injEq]
  rw [if_neg hclosed]
  have hopen : s.connection.isOpen = true := by simpa using hclosed
  by_cases hmany : s.connection.limits.maxVariables < ids.length
  · rw [if_pos hmany, update_of_tooMany hids hopen hmany, Except.error.injEq, Option.some.injEq]
  rw [if_neg hmany]
  have hfew : ids.length ≤ s.connection.limits.maxVariables := Nat.not_lt.mp hmany
  -- from here on an update ends well or fails for the one reason that is left
  constructor
  · intro h
    have hnot : ¬(s.update ids delta).1 = .ok () := by simp [h]
    rw [update_eq_ok_iff hopen] at hnot
    push Not at hnot
    rw [if_pos (hnot hfew)]
    rw [update_of_error hopen hfew h] at h
    rw [Except.error.inj h]
  · intro h
    split at h
    · next hundefined =>
      obtain rfl := Option.some.inj h
      obtain ⟨hnegative, term, hterm, hunknown⟩ := hundefined
      cases hresult : (s.update ids delta).1 with
      | ok =>
        rcases ((update_eq_ok_iff hopen).mp hresult).2 with hcounted | hknown
        · omega
        · exact absurd (hknown term hterm) hunknown
      | error f =>
        rw [update_of_error hopen hfew hresult] at hresult
        exact hresult.symm
    · cases h

/-- **The connection after a failed update**: as it was, or stopped on the way on an open connection. -/
theorem update_error_cases (h : (s.update ids delta).1 = .error f) :
    (f ≠ .logarithmDomain ∧ (s.update ids delta).2.connection = s.connection) ∨
      (f = .logarithmDomain ∧ s.connection.isOpen = true ∧
        (s.update ids delta).2.connection = s.connection.write (·.dropTerms ids)) := by
  have hids : ids ≠ [] := by
    rintro rfl
    cases h
  by_cases hclosed : s.connection.isOpen = false
  · rw [update_of_closed hids hclosed] at h ⊢
    rw [← Except.error.inj h]
    exact Or.inl ⟨by decide, rfl⟩
  have hopen : s.connection.isOpen = true := by simpa using hclosed
  by_cases hmany : s.connection.limits.maxVariables < ids.length
  · rw [update_of_tooMany hids hopen hmany] at h ⊢
    rw [← Except.error.inj h]
    exact Or.inl ⟨by decide, rfl⟩
  · have hhalf := update_of_error hopen (Nat.not_lt.mp hmany) h
    rw [hhalf] at h ⊢
    exact Or.inr ⟨(Except.error.inj h).symm, hopen, rfl⟩

end Search.Session

/-- **Which failed updates of the index leave everything as it was.** An update fails exactly for the reasons of
`updateFailure?`. The rarities and what other connections see never change. If a logarithm is undefined, the terms of the
nodes are gone and a transaction is open, which a rollback undoes, but the next digest that is saved makes last. After
any other failure the connection is as it was. So the terms and the rarities are unchanged and no transaction is open if
and only if there was none before and the failure is another one. The number of nodes is exact, so it cannot overflow as
a double beyond 10 ^ 308 would. -/
theorem failed_update_atomic_iff {R : Type} [Scalar R] (s : Session R) (ids : List NodeId) (delta : Int) (f : Failure) :
    ((s.update ids delta).1 = .error f ↔ s.updateFailure? ids delta = some f) ∧
      ((s.update ids delta).1 = .error f →
        let after := (s.update ids delta).2.connection
        (after.view.rarity = s.connection.view.rarity ∧ after.committed = s.connection.committed ∧
            after.rollback = s.connection.rollback) ∧
          (f = .logarithmDomain → after.pending = some (s.connection.view.dropTerms ids) ∧
            ∀ path digest, (after.saveDigest path digest true).2.committed.terms =
              (s.connection.view.dropTerms ids).terms) ∧
          (f ≠ .logarithmDomain → after = s.connection) ∧
          ((after.view.terms = s.connection.view.terms ∧ after.view.rarity = s.connection.view.rarity ∧
            after.pending = none) ↔ f ≠ .logarithmDomain ∧ s.connection.pending = none)) := by
  refine ⟨Session.update_eq_error_iff, fun h => ?_⟩
  intro after
  rcases Session.update_error_cases h with ⟨hf, hafter⟩ | ⟨hf, hopen, hafter⟩
  · have hsame : after = s.connection := hafter
    rw [hsame]
    refine ⟨⟨rfl, rfl, rfl⟩, fun hlog => absurd hlog hf, fun _ => rfl, ?_⟩
    constructor
    · rintro ⟨-, -, hpending⟩
      exact ⟨hf, hpending⟩
    · rintro ⟨-, hpending⟩
      exact ⟨rfl, rfl, hpending⟩
  · have hwritten : after = s.connection.write (·.dropTerms ids) := hafter
    rw [hwritten]
    refine ⟨⟨rfl, rfl, rfl⟩, fun _ => ⟨rfl, fun path digest => ?_⟩, fun hother => absurd hf hother, ?_⟩
    · -- a change on the same connection joins the open transaction, and its commit ends both
      have hstill : (s.connection.write (·.dropTerms ids)).isOpen = true := hopen
      rw [Connection.saveDigest, Connection.change, if_pos hstill]
      rfl
    · constructor
      · rintro ⟨-, -, hpending⟩
        cases hpending
      · rintro ⟨hother, -⟩
        exact absurd hf hother

/-- The terms of two functions are to be brought up to date, one of which is new. The number of nodes is said to have
shrunk below zero: the term in the index is gone, and so it is for good once a digest is saved. -/
theorem failed_update_of_negative_count :
    let s : Session ℝ := {
      connection := { committed := {
        nodes := [functionRow (some "a") "fetch", functionRow (some "b") "load"]
        terms := [⟨some "a", "fetch", 1⟩], rarity := [("fetch", 1)] } }
      engine := { rarity := [("fetch", 1)], total := 2 } }
    let after := (s.update [some "a", some "b"] (-3)).2.connection
    (s.update [some "a", some "b"] (-3)).1 = .error .logarithmDomain ∧ s.connection.pending = none ∧
      after.view.terms = [] ∧ after.pending.isSome = true ∧
      (after.saveDigest "a.py" "1" true).2.committed.terms = [] := by
  intro s after
  obtain ⟨hfails, hleaves⟩ := failed_update_atomic_iff s [some "a", some "b"] (-3) .logarithmDomain
  have hload : functionRow (some "b") "load" ∈ chosenRows s.connection.view [some "a", some "b"] :=
    Tables.mem_chosenRows.mpr (by decide +kernel)
  have hterm : "load" ∈ allTerms (s.documentsOf [some "a", some "b"]) :=
    mem_allTerms_documentsOf.mpr ⟨_, hload, by decide +kernel⟩
  have herror : (s.update [some "a", some "b"] (-3)).1 = .error .logarithmDomain := by
    rw [hfails, Session.updateFailure?, if_neg (by decide), if_neg (by decide), if_neg (by decide),
      if_pos ⟨by decide, "load", hterm, by decide⟩]
  obtain ⟨-, hhalf, -⟩ := hleaves herror
  obtain ⟨hpending, hsaved⟩ := hhalf rfl
  have hgone : (s.connection.view.dropTerms [some "a", some "b"]).terms = [] := rfl
  refine ⟨herror, rfl, ?_, ?_, ?_⟩
  · rw [Connection.view, hpending]
    exact hgone
  · rw [hpending]
    rfl
  · exact (hsaved "a.py" "1").trans hgone

end CodeAtlas
