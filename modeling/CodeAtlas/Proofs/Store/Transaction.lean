import Mathlib
import CodeAtlas.Store.Connection

/-!
# Transactions

A transaction that is started, changes tables and is committed, with a rollback if one of these statements fails, is
all or nothing. While the changes are made, what is committed stays as it is, and the transaction stays open. So the
commit at the end cannot fail, and neither can the rollback, after which the tables are as they were.

A guard does not only hold for the transaction that it was meant for. If the start of a transaction stands under guard
and fails because another transaction is open, then the rollback drops that other transaction. Saving a graph is of
this kind. Deleting files starts its transaction first, and a failure to do so leaves everything as it was.

## Main definitions

* `Change.attempt`: a change that is refused if it has too many variables
* `storeRows`: the rows that some nodes come to when they are inserted one after another

## Main results

* `Connection.executeAll_changes`: changes within a transaction
* `Connection.guarded_changes`: what a guarded transaction comes to
* `Connection.saveGraph_eq`, `Connection.deleteFiles_eq_ite`: all outcomes of saving a graph and of deleting files
-/

namespace CodeAtlas.Store

variable {R : Type} (limits : Limits)

/-! ## Changes one after another -/

/-- The tables after a change, which is refused if it has too many variables. -/
def Change.attempt (t : Tables R) (e : Change) : Except Failure (Tables R) :=
  if limits.maxVariables < e.variableCount then .error .tooManyVariables else e.apply t

namespace Connection

variable (c : Connection R)

theorem view_of_pending_eq_none {c : Connection R} (h : c.pending = none) : c.view = c.committed := by
  rw [view, h]
  rfl

@[simp] theorem view_of_pending (t : Tables R) : ({ c with pending := some t } : Connection R).view = t := rfl

/-- A change within a transaction leaves it open, and what is committed as it is. -/
theorem execute_change (t : Tables R) (e : Change) :
    ({ c with pending := some t } : Connection R).execute (.change e) =
      match e.attempt c.limits t with
      | .ok t' => (.ok (), { c with pending := some t' })
      | .error f => (.error f, { c with pending := some t }) := by
  rw [execute, Change.attempt]
  split
  · rfl
  · cases happly : e.apply t <;> simp only [view_of_pending, happly]

/-- **Changes within a transaction** come to what they do to the tables one after another. They leave the transaction
open, also if one of them fails, and what is committed as it is. -/
theorem executeAll_changes (t : Tables R) (es : List Change) :
    ∃ t', (∀ t'', es.foldlM (Change.attempt c.limits) t = .ok t'' → t' = t'') ∧
      ({ c with pending := some t } : Connection R).executeAll (es.map .change) =
        ((es.foldlM (Change.attempt c.limits) t).map fun _ => (), { c with pending := some t' }) := by
  induction es generalizing t with
  | nil => exact ⟨t, fun t'' h => Except.ok.inj h, rfl⟩
  | cons e es ih =>
    rw [List.map_cons, executeAll, execute_change, List.foldlM_cons]
    cases he : e.attempt c.limits t with
    | error f => exact ⟨t, fun t'' h => (by cases h), rfl⟩
    | ok next => exact ih next

theorem executeAll_append (ss ts : List Statement) :
    c.executeAll (ss ++ ts) =
      match c.executeAll ss with
      | (.ok (), c') => c'.executeAll ts
      | (.error f, c') => (.error f, c') := by
  induction ss generalizing c with
  | nil => rfl
  | cons s ss ih =>
    rw [List.cons_append, executeAll, executeAll]
    match c.execute s with
    | (.ok (), c') => exact ih c'
    | (.error f, c') => rfl

/-! ## Guarded transactions -/

/-- **What a guarded transaction comes to** once it has started: all changes are kept, or all are dropped. -/
theorem guarded_changes (t : Tables R) (es : List Change) :
    ({ c with pending := some t } : Connection R).guarded (es.map .change ++ [.commit]) =
      match es.foldlM (Change.attempt c.limits) t with
      | .ok t' => (.ok (), { c with committed := t', pending := none })
      | .error f => (.error f, { c with pending := none }) := by
  obtain ⟨t', hlast, hrun⟩ := executeAll_changes c t es
  rw [guarded, executeAll_append, hrun]
  -- the transaction is open: the commit keeps its tables, and the rollback drops them
  cases hes : es.foldlM (Change.attempt c.limits) t with
  | ok t'' =>
    obtain rfl := hlast t'' hes
    rfl
  | error f => rfl

theorem guarded_cons_of_ok {c c' : Connection R} {s : Statement} (h : c.execute s = (.ok (), c'))
    (ss : List Statement) : c.guarded (s :: ss) = c'.guarded ss := by
  rw [guarded, executeAll, h]
  rfl

/-- A transaction that is started under guard is all or nothing, if no other one is open. -/
theorem guarded_start {c : Connection R} (hpending : c.pending = none) (es : List Change) :
    c.guarded (.start :: es.map .change ++ [.commit]) =
      match es.foldlM (Change.attempt c.limits) c.committed with
      | .ok t => (.ok (), { c with committed := t })
      | .error f => (.error f, c) := by
  have hstart : c.execute .start = (.ok (), { c with pending := some c.committed }) := by
    rw [execute, hpending]
  rw [List.cons_append, guarded_cons_of_ok hstart, guarded_changes]
  obtain ⟨committed, pending, isOpen, limits⟩ := c
  subst hpending
  rfl

/-- If another transaction is open, a start under guard drops it. -/
theorem guarded_start_of_isSome {c : Connection R} (hpending : c.pending.isSome = true) (ss : List Statement) :
    c.guarded (.start :: ss) = (.error .nestedTransaction, c.rollback) := by
  obtain ⟨t, ht⟩ := Option.isSome_iff_exists.mp hpending
  have hstart : c.execute .start = (.error .nestedTransaction, c) := by
    rw [execute, ht]
  have hrollback : c.execute .rollback = (.ok (), c.rollback) := if_pos hpending
  rw [guarded, executeAll, hstart]
  simp only
  rw [hrollback]

end Connection

/-! ## Saving a graph -/

/-- The rows of several nodes, in order, where `taken` are the identifiers that are used already. The first node that
may not be stored decides the failure. A missing identifier is never taken. -/
def storeRows (taken : List String) : List Node → Except Failure (List NodeRow)
  | [] => .ok []
  | n :: rest =>
    match NodeRow.ofNode? n with
    | .error f => .error f
    | .ok row =>
      match row.id with
      | none => (storeRows taken rest).map (row :: ·)
      | some id =>
        if taken.contains id then .error .duplicateId
        else (storeRows (id :: taken) rest).map (row :: ·)

/-- A node that is inserted comes to its row, unless its identifier is there. -/
theorem attempt_insertNode (t : Tables R) (n : Node) :
    Change.attempt limits t (.insertNode n) =
      match NodeRow.ofNode? n with
      | .error f => .error f
      | .ok row =>
        if row.id.isSome = true ∧ row.id ∈ t.nodes.map (·.id) then .error .duplicateId
        else .ok { t with nodes := t.nodes ++ [row] } := by
  have hfew : ¬ limits.maxVariables < (Change.insertNode n).variableCount := Nat.not_lt.mpr limits.insertion_le
  rw [Change.attempt, if_neg hfew, Change.apply]
  cases NodeRow.ofNode? n with
  | error f => rfl
  | ok row =>
    refine if_congr ?_ rfl rfl
    simp [List.any_eq_true]

/-- **Nodes that are inserted one after another** come to their rows, at the end of the table. -/
theorem foldlM_insertNode (taken : List String) {t : Tables R}
    (htaken : ∀ id, id ∈ taken ↔ some id ∈ t.nodes.map (·.id)) (ns : List Node) :
    (ns.map .insertNode).foldlM (Change.attempt limits) t =
      (storeRows taken ns).map fun rows => { t with nodes := t.nodes ++ rows } := by
  -- on the nodes that are left; the identifiers that are taken are those of the table
  induction ns generalizing taken t with
  | nil => simp [storeRows, Except.map, pure, Except.pure]
  | cons n ns ih =>
    have hattempt := attempt_insertNode limits t n
    rw [List.map_cons, List.foldlM_cons, storeRows]
    cases hrow : NodeRow.ofNode? n with
    | error f =>
      rw [hrow] at hattempt
      rw [hattempt]
      rfl
    | ok row =>
      rw [hrow] at hattempt
      have hrest : ∀ taken' : List String, (∀ id, id ∈ taken' ↔ some id ∈ (t.nodes ++ [row]).map (·.id)) →
          (ns.map .insertNode).foldlM (Change.attempt limits) { t with nodes := t.nodes ++ [row] } =
            ((storeRows taken' ns).map (row :: ·)).map fun rows => { t with nodes := t.nodes ++ rows } := by
        intro taken' htaken'
        rw [ih taken' htaken']
        cases storeRows taken' ns with
        | error f => rfl
        | ok rows => simp [Except.map]
      cases hid : row.id with
      | none =>
        simp only [hid, Option.isSome_none, Bool.false_eq_true, false_and, if_false] at hattempt ⊢
        rw [hattempt]
        exact hrest taken (by simp [htaken, hid])
      | some id =>
        simp only [hid, Option.isSome_some, true_and, List.contains_iff_mem, ← htaken] at hattempt ⊢
        rw [hattempt]
        by_cases hthere : id ∈ taken
        · rw [if_pos hthere, if_pos hthere]
          rfl
        · rw [if_neg hthere, if_neg hthere]
          exact hrest (id :: taken) (by simp [htaken, hid, or_comm, eq_comm])

theorem foldlM_replacing (t : Tables R) (g : Graph) :
    (replacing g).foldlM (Change.attempt limits) t = (storeRows [] (g.nodes.map (·.2))).map t.withNodes := by
  have hinsert := foldlM_insertNode limits [] (t := t.withNodes []) (by simp [Tables.withNodes]) (g.nodes.map (·.2))
  rw [List.map_map] at hinsert
  -- the tables are empty before the first node is inserted
  exact hinsert

namespace Connection

variable (c : Connection R)

/-- **All outcomes of saving a graph.** If a transaction is open, it is dropped and nothing is saved. -/
theorem saveGraph_eq (g : Graph) :
    c.saveGraph g =
      if c.isOpen then
        match c.pending with
        | some _ => (.error .nestedTransaction, c.rollback)
        | none =>
          match storeRows [] (g.nodes.map (·.2)) with
          | .ok rows => (.ok (), { c with committed := c.committed.withNodes rows })
          | .error f => (.error f, c)
      else (.error .closed, c) := by
  rw [saveGraph]
  refine if_congr Iff.rfl ?_ rfl
  obtain ⟨committed, pending, isOpen, limits⟩ := c
  cases pending with
  | some t => exact guarded_start_of_isSome rfl _
  | none =>
    rw [guarded_start rfl, foldlM_replacing]
    cases storeRows [] (g.nodes.map (·.2)) <;> rfl

/-! ## Deleting files -/

theorem foldlM_deleting (t : Tables R) (paths : List String) :
    (deleting paths).foldlM (Change.attempt limits) t =
      if limits.maxVariables < 2 * paths.length then .error .tooManyVariables else .ok (t.dropFiles paths) := by
  rw [deleting, List.foldlM_cons, Change.attempt, Change.variableCount]
  split
  · rfl
  · next hfew =>
    have hfew' : ¬ limits.maxVariables < paths.length := by omega
    rw [Change.apply]
    change [Change.deleteDigests paths].foldlM (Change.attempt limits) _ = _
    rw [List.foldlM_cons, Change.attempt, Change.variableCount, if_neg hfew']
    rfl

/-- **All outcomes of deleting files.** If a transaction is open, it stays open and nothing is deleted. -/
theorem deleteFiles_eq_ite (paths : List String) (compacted : Bool) :
    c.deleteFiles paths compacted =
      if paths.isEmpty then (.ok (), c)
      else if c.isOpen then
        match c.pending with
        | some _ => (.error .nestedTransaction, c)
        | none =>
          if c.limits.maxVariables < 2 * paths.length then (.error .tooManyVariables, c)
          else (.ok (), { c with committed := c.committed.dropFiles paths })
      else (.error .closed, c) := by
  rw [deleteFiles]
  refine if_congr Iff.rfl rfl (ite_congr rfl (fun hopen => ?_) fun _ => rfl)
  obtain ⟨committed, pending, isOpen, limits⟩ := c
  cases pending with
  | some t => rfl
  | none =>
    have hrun := guarded_changes (⟨committed, none, isOpen, limits⟩ : Connection R) committed (deleting paths)
    rw [foldlM_deleting] at hrun
    rw [execute]
    simp only at hrun ⊢
    rw [hrun]
    by_cases hmany : limits.maxVariables < 2 * paths.length
    · rw [if_pos hmany, if_pos hmany]
    · rw [if_neg hmany, if_neg hmany]
      cases compacted with
      | false => rfl
      | true =>
        -- no transaction is open any more, so the database can be made small
        exact if_pos hopen

end Connection

end CodeAtlas.Store
