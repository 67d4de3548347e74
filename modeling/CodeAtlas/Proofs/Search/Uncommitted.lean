import Mathlib
import CodeAtlas.Proofs.Search.Session

/-!
# Writes that are not committed yet

Some operations leave a transaction open: a digest is saved or a file deleted in order to be committed later, or an
update of the index fails on its way. From then on the tables that the connection shows are not those that are
committed. The two operations that start a transaction of their own fail in this case, but they do not fail alike.
Deleting files leaves everything as it was. Saving a graph drops the open transaction, so the connection shows what it
showed when there was last no transaction, and all writes since then are lost.

This is said for any sequence of operations, also of several search engines that work on the same connection: a call may
be made by any engine, whatever it remembers.

## Main definitions

* `Operation`, `Connection.performAll`: operations one after another
* `Settled`: the operations after which there was last no transaction, and those since then

## Main results

* `Connection.follows_perform`: an operation ends without a transaction, or leaves what is committed as it is
* `exists_settled`: what is committed is what was shown when there was last no transaction
* `view_after_failure`: what a failed write leaves
-/

namespace CodeAtlas

open Store Search

/-- An operation on a connection. -/
inductive Operation (R : Type) where
  | saveGraph (g : Graph)
  | saveDigest (path digest : String) (keep : Bool)
  | saveDigests (digests : List (String × String))
  | deleteFile (path : String) (keep : Bool)
  | deleteFiles (paths : List String) (compacted : Bool)
  | compact
  /-- A call of a search engine, with what it remembers. -/
  | call (engine : Engine R) (call : Call)
  | close
  | reopen

variable {R : Type} [Scalar R]

namespace Store.Connection

/-- The connection after an operation, whatever its outcome. -/
def perform (c : Connection R) : Operation R → Connection R
  | .saveGraph g => (c.saveGraph g).2
  | .saveDigest path digest keep => (c.saveDigest path digest keep).2
  | .saveDigests digests => (c.saveDigests digests).2
  | .deleteFile path keep => (c.deleteFile path keep).2
  | .deleteFiles paths compacted => (c.deleteFiles paths compacted).2
  | .compact => c.compact.2
  | .call engine call => (Session.after ⟨c, engine⟩ call).connection
  | .close => c.close
  | .reopen => c.reopen

/-- The connection after some operations. -/
def performAll (c : Connection R) (ops : List (Operation R)) : Connection R :=
  ops.foldl perform c

theorem performAll_append (c : Connection R) (ops ops' : List (Operation R)) :
    c.performAll (ops ++ ops') = (c.performAll ops).performAll ops' :=
  List.foldl_append

/-! ## One operation -/

/-- A connection that follows another one: there is no transaction, or the connection is open and what is committed has
not changed. -/
def Follows (c' c : Connection R) : Prop :=
  c'.pending = none ∨ c'.committed = c.committed ∧ c'.isOpen = true

omit [Scalar R] in
/-- A connection that stays as it is. -/
theorem follows_refl {c : Connection R} (h : c.pending.isSome = true → c.isOpen = true) : c.Follows c := by
  cases hpending : c.pending with
  | none => exact Or.inl hpending
  | some t => exact Or.inr ⟨rfl, h (by rw [hpending]; rfl)⟩

omit [Scalar R] in
theorem follows_change {c : Connection R} (h : c.pending.isSome = true → c.isOpen = true) (f : Tables R → Tables R)
    (keep : Bool) : (c.change f keep).2.Follows c := by
  rw [change]
  split
  · next hopen =>
    cases keep with
    | true => exact Or.inl rfl
    | false => exact Or.inr ⟨rfl, hopen⟩
  · exact follows_refl h

omit [Scalar R] in
theorem follows_saveGraph {c : Connection R} (h : c.pending.isSome = true → c.isOpen = true) (g : Graph) :
    (c.saveGraph g).2.Follows c := by
  rw [saveGraph_eq]
  split
  · split
    · exact Or.inl rfl
    · next hpending => split <;> exact Or.inl hpending
  · exact follows_refl h

omit [Scalar R] in
theorem follows_deleteFiles {c : Connection R} (h : c.pending.isSome = true → c.isOpen = true) (paths : List String)
    (compacted : Bool) : (c.deleteFiles paths compacted).2.Follows c := by
  rw [deleteFiles_eq_ite]
  split
  · exact follows_refl h
  split
  · split
    · exact follows_refl h
    · next hpending => split <;> exact Or.inl hpending
  · exact follows_refl h

/-- A call of a search engine commits what it writes, unless a logarithm is undefined. -/
theorem follows_after {c : Connection R} (h : c.pending.isSome = true → c.isOpen = true) (engine : Engine R)
    (call : Call) : (Session.after ⟨c, engine⟩ call).connection.Follows c := by
  cases call with
  | build =>
    rw [Session.after]
    cases hopen : c.isOpen with
    | true =>
      rw [Session.build_of_isOpen hopen]
      exact Or.inl rfl
    | false =>
      rw [Session.build_of_closed hopen]
      exact follows_refl h
  | update ids delta =>
    have hupdated := Session.updated ⟨c, engine⟩ ids delta
    rw [Session.after]
    generalize Session.update ⟨c, engine⟩ ids delta = result at hupdated ⊢
    cases hupdated with
    | nothing | refused => exact follows_refl h
    | dropped | indexed => exact Or.inl rfl
    | failed f hids hopen => exact Or.inr ⟨rfl, hopen⟩
  | remove ids =>
    rw [Session.after]
    rcases Session.remove_cases ⟨c, engine⟩ ids with hremove | ⟨f, hremove⟩ | hremove <;> rw [hremove]
    · exact follows_refl h
    · exact follows_refl h
    · exact Or.inl rfl
  | search query limit =>
    rw [Session.after, Session.connection_search]
    exact follows_refl h

/-- **An operation ends without a transaction, or leaves what is committed as it is.** -/
theorem follows_perform {c : Connection R} (h : c.pending.isSome = true → c.isOpen = true) (op : Operation R) :
    (c.perform op).Follows c := by
  cases op with
  | saveGraph g => exact follows_saveGraph h g
  | saveDigest path digest keep => exact follows_change h _ keep
  | saveDigests digests =>
    rw [perform, saveDigests]
    split
    · exact follows_refl h
    · exact follows_change h _ true
  | deleteFile path keep => exact follows_change h _ keep
  | deleteFiles paths compacted => exact follows_deleteFiles h paths compacted
  | compact =>
    rw [perform, compact]
    split
    · split <;> exact follows_refl h
    · exact follows_refl h
  | call engine call => exact follows_after h engine call
  | close | reopen => exact Or.inl rfl

end Store.Connection

/-! ## Operations one after another -/

/-- The operations `kept`, after which there was last no transaction, and those since then, `lost`. -/
structure Settled (c : Connection R) (ops kept lost : List (Operation R)) : Prop where
  split : ops = kept ++ lost
  settled : (c.performAll kept).pending = none
  unsettled : ∀ part, part ≠ [] → part <+: lost → (c.performAll (kept ++ part)).pending.isSome = true

/-- There is no transaction now. -/
theorem Settled.of_eq_none {c : Connection R} {ops : List (Operation R)} (h : (c.performAll ops).pending = none) :
    Settled c ops ops [] where
  split := (List.append_nil ops).symm
  settled := h
  unsettled _ hne hpart := absurd (List.prefix_nil.mp hpart) hne

/-- One more operation leaves a transaction open. -/
theorem Settled.concat {c : Connection R} {ops kept lost : List (Operation R)} (h : Settled c ops kept lost)
    {op : Operation R} (hop : (c.performAll (ops ++ [op])).pending.isSome = true) :
    Settled c (ops ++ [op]) kept (lost ++ [op]) where
  split := by rw [h.split, List.append_assoc]
  settled := h.settled
  unsettled part hne hpart := by
    rcases List.prefix_concat_iff.mp hpart with rfl | hpart
    · rw [← List.append_assoc, ← h.split]
      exact hop
    · exact h.unsettled part hne hpart

/-- **What is committed** is what was shown when there was last no transaction. Only an open connection has a
transaction. -/
theorem exists_settled {c : Connection R} (hpending : c.pending = none) (ops : List (Operation R)) :
    ((c.performAll ops).pending.isSome = true → (c.performAll ops).isOpen = true) ∧
      ∃ kept lost, Settled c ops kept lost ∧ (c.performAll ops).committed = (c.performAll kept).view := by
  -- on the operations from the last one; an operation that ends without a transaction settles all before it
  induction ops using List.reverseRecOn with
  | nil =>
    refine ⟨fun h => ?_, [], [], .of_eq_none hpending, (Connection.view_of_pending_eq_none hpending).symm⟩
    rw [Connection.performAll, List.foldl_nil, hpending] at h
    cases h
  | append_singleton ops op ih =>
    obtain ⟨hopen, kept, lost, hsettled, hcommitted⟩ := ih
    have hfollows := Connection.follows_perform hopen op
    have hlast : c.performAll (ops ++ [op]) = (c.performAll ops).perform op := c.performAll_append ops [op]
    cases hnow : (c.performAll (ops ++ [op])).pending with
    | none =>
      refine ⟨fun h => (by cases h), ops ++ [op], [], .of_eq_none hnow, ?_⟩
      exact (Connection.view_of_pending_eq_none hnow).symm
    | some t =>
      rw [← hlast] at hfollows
      obtain ⟨hsame, hopen'⟩ := hfollows.resolve_left (by simp [hnow])
      exact ⟨fun _ => hopen', kept, lost ++ [op], hsettled.concat (by rw [hnow]; rfl), hsame.trans hcommitted⟩

/-! ## Failures -/

namespace Store.Connection

omit [Scalar R] in
/-- If deleting files fails, everything is as it was. -/
theorem eq_of_deleteFiles_error {c c' : Connection R} {paths : List String} {compacted : Bool} {f : Failure}
    (h : c.deleteFiles paths compacted = (.error f, c')) : c' = c := by
  rw [deleteFiles_eq_ite] at h
  split at h
  · cases h
  split at h
  · split at h
    · exact (Prod.mk.inj h).2.symm
    · split at h
      · exact (Prod.mk.inj h).2.symm
      · cases h
  · exact (Prod.mk.inj h).2.symm

omit [Scalar R] in
theorem rollback_of_eq_none {c : Connection R} (h : c.pending = none) : c.rollback = c := by
  cases c
  exact congrArg (Connection.mk _ · _ _) h.symm

omit [Scalar R] in
/-- If saving a graph fails, the transaction is dropped, if there is one. -/
theorem eq_rollback_of_saveGraph_error {c c' : Connection R} (hopen : c.pending.isSome = true → c.isOpen = true)
    {g : Graph} {f : Failure} (h : c.saveGraph g = (.error f, c')) : c' = c.rollback := by
  rw [saveGraph_eq] at h
  split at h
  · split at h
    · exact (Prod.mk.inj h).2.symm
    · next hpending =>
      split at h
      · cases h
      · rw [rollback_of_eq_none hpending]
        exact (Prod.mk.inj h).2.symm
  · next hclosed =>
    have hpending : c.pending = none := Option.not_isSome_iff_eq_none.mp fun hsome => hclosed (hopen hsome)
    rw [rollback_of_eq_none hpending]
    exact (Prod.mk.inj h).2.symm

end Store.Connection

/-- **What a failed write leaves**, after any operations on a connection that had no transaction. If deleting files
fails, everything is as it was. While a transaction is open, saving a graph always fails. If saving a graph fails, there
is no transaction any more, and the connection shows what it showed when there was last none: every write since then is
lost. -/
theorem view_after_failure {c : Connection R} (hpending : c.pending = none) (ops : List (Operation R)) :
    let now := c.performAll ops
    (∀ paths compacted f c', now.deleteFiles paths compacted = (.error f, c') → c' = now) ∧
      (now.pending.isSome = true → ∀ g, ∃ c', now.saveGraph g = (.error .nestedTransaction, c')) ∧
      ∃ kept lost, Settled c ops kept lost ∧
        ∀ g f c', now.saveGraph g = (.error f, c') → c'.pending = none ∧ c'.view = (c.performAll kept).view := by
  obtain ⟨hopen, kept, lost, hsettled, hcommitted⟩ := exists_settled hpending ops
  refine ⟨fun _ _ _ _ h => Connection.eq_of_deleteFiles_error h, fun hsome g => ?_, kept, lost, hsettled, ?_⟩
  · obtain ⟨t, ht⟩ := Option.isSome_iff_exists.mp hsome
    refine ⟨(c.performAll ops).rollback, ?_⟩
    rw [Connection.saveGraph_eq, if_pos (hopen hsome), ht]
  · intro g f c' h
    rw [Connection.eq_rollback_of_saveGraph_error hopen h]
    exact ⟨rfl, hcommitted⟩

/-- A digest that is to be committed later is lost when an empty graph is saved. When a file is deleted, which fails as
well, the digest stays. -/
theorem digest_lost_by_failed_save :
    let c : Connection Float := {}
    let now := c.performAll [.saveDigest "a.py" "1" false]
    now.view.files = [("a.py", "1")] ∧
      (∃ f c', now.deleteFiles ["b.py"] false = (.error f, c') ∧ c'.view.files = [("a.py", "1")]) ∧
      ∃ f c', now.saveGraph ⟨[]⟩ = (.error f, c') ∧ c'.view.files = [] := by
  intro c now
  obtain ⟨hdelete, hnested, kept, lost, hsettled, hsave⟩ :=
    view_after_failure (c := c) rfl [.saveDigest "a.py" "1" false]
  have hkept : kept = [] := by
    rcases List.append_eq_singleton_iff.mp hsettled.split.symm with ⟨hkept, -⟩ | ⟨hkept, -⟩
    · exact hkept
    · have hnone := hsettled.settled
      rw [hkept] at hnone
      cases hnone
  refine ⟨rfl, ⟨.nestedTransaction, now, rfl, ?_⟩, ?_⟩
  · rw [hdelete ["b.py"] false .nestedTransaction now rfl]
    rfl
  · obtain ⟨c', hc'⟩ := hnested rfl ⟨[]⟩
    refine ⟨_, c', hc', ?_⟩
    rw [(hsave _ _ c' hc').2, hkept]
    rfl

end CodeAtlas
