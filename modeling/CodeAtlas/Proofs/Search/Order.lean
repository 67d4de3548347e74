import Mathlib
import CodeAtlas.Proofs.Search.Indexed

/-!
# The order of rows and documents

Which rows are searched, and which of them are put into the search index for some identifiers, does not depend on the
order of the rows and of the identifiers. If all rows have different identifiers, the tables of the search index hold
the same terms and rarities, whatever the order of the documents.

## Main results

* `Tables.searchable_perm_filter`: which rows are searched
* `chosenRows_perm`: which rows are chosen
* `termRows_perm`, `freshRarities_perm`: the terms and rarities of documents in another order
-/

namespace CodeAtlas

open Store Search

/-- Elements with one of several keys, key by key, are all elements with such a key. -/
theorem flatMap_filter_perm {α : Type} (key : α → String) (keys : List String) (h : keys.Nodup) (xs : List α) :
    (keys.flatMap fun k => xs.filter (key · == k)).Perm (xs.filter fun x => keys.contains (key x)) := by
  induction keys with
  | nil => simp
  | cons k rest ih =>
    obtain ⟨hk, hrest⟩ := List.nodup_cons.mp h
    -- first the elements with the first key, and then the others
    have hfirst : (xs.filter fun x => (k :: rest).contains (key x)).filter (key · == k) = xs.filter (key · == k) := by
      rw [List.filter_filter]
      refine List.filter_congr fun x _ => ?_
      by_cases hx : key x = k <;> simp [hx]
    have hothers : (xs.filter fun x => (k :: rest).contains (key x)).filter (fun x => !(key x == k)) =
        xs.filter fun x => rest.contains (key x) := by
      rw [List.filter_filter]
      refine List.filter_congr fun x _ => ?_
      by_cases hx : key x = k
      · simp [hx, hk]
      · simp [hx]
    rw [List.flatMap_cons]
    refine List.Perm.trans ?_ (List.filter_append_perm (key · == k) _)
    rw [hfirst, hothers]
    exact (ih hrest).append_left _

namespace Store.Tables

variable {R : Type} {t t' : Tables R}

/-- **Which rows are searched**, up to their order. -/
theorem searchable_perm_filter (t : Tables R) : t.searchable.Perm (t.nodes.filter (·.isSearchable)) :=
  flatMap_filter_perm NodeRow.kind Node.searchableKinds (by decide) t.nodes

theorem searchable_perm (h : t.nodes.Perm t'.nodes) : t.searchable.Perm t'.searchable :=
  (t.searchable_perm_filter.trans (h.filter _)).trans t'.searchable_perm_filter.symm

end Store.Tables

namespace Search

variable {R : Type} {t t' : Tables R}

/-- The rows that are chosen for some identifiers, up to their order. -/
theorem chosenRows_perm_filter (t : Tables R) (ids : List NodeId) :
    (chosenRows t ids).Perm (t.searchable.filter fun r => r.id.isSome && ids.contains r.id) := by
  unfold chosenRows
  split
  · exact List.mergeSort_perm _ _
  · exact List.Perm.refl _

/-- **Which rows are chosen** does not depend on the order of the rows and of the identifiers. -/
theorem chosenRows_perm (hnodes : t.nodes.Perm t'.nodes) {ids ids' : List NodeId} (hids : ids.Perm ids') :
    (chosenRows t ids).Perm (chosenRows t' ids') := by
  have hsame : (fun r : NodeRow => r.id.isSome && ids.contains r.id) = fun r => r.id.isSome && ids'.contains r.id := by
    funext r
    rw [hids.contains_eq]
  refine (chosenRows_perm_filter t ids).trans (List.Perm.trans ?_ (chosenRows_perm_filter t' ids').symm)
  rw [hsame]
  exact (Tables.searchable_perm hnodes).filter _

/-- Rows are chosen at most once. -/
theorem nodup_map_id_chosenRows (h : (t.nodes.map (·.id)).Nodup) (ids : List NodeId) :
    ((chosenRows t ids).map (·.id)).Nodup := by
  rw [((chosenRows_perm_filter t ids).map _).nodup_iff]
  refine (List.filter_sublist.map _).nodup ?_
  rw [(t.searchable_perm_filter.map _).nodup_iff]
  exact (List.filter_sublist.map _).nodup h

/-! ## Documents -/

variable {ds ds' : List Document}

theorem putDocument_of_not_mem {d : Document} (h : d.id ∉ ds.map (·.id)) : putDocument d ds = ds ++ [d] := by
  induction ds with
  | nil => rfl
  | cons e rest ih =>
    rw [List.map_cons, List.mem_cons, not_or] at h
    rw [putDocument, if_neg (Ne.symm h.1), ih h.2, List.cons_append]

/-- Documents with different identifiers are all kept. -/
theorem onePerId_of_nodup (h : (ds.map (·.id)).Nodup) : onePerId ds = ds := by
  -- the documents that are there have other identifiers than those that are still to come
  have hput : ∀ (rest done : List Document), ((done ++ rest).map (·.id)).Nodup →
      rest.foldl (fun ds d => putDocument d ds) done = done ++ rest := by
    intro rest
    induction rest with
    | nil => simp
    | cons d rest ih =>
      intro done hdone
      have hnew : d.id ∉ done.map (·.id) := by
        rw [List.map_append] at hdone
        exact fun hm => List.disjoint_of_nodup_append hdone hm (by simp)
      rw [List.foldl_cons, putDocument_of_not_mem hnew, ih _ (by simpa using hdone)]
      simp
  exact hput ds [] (by simpa using h)

variable [Scalar R]

/-- **The terms of documents** with different identifiers do not depend on the order of the documents. -/
theorem termRows_perm (h : (ds.map (·.id)).Nodup) (hperm : ds.Perm ds') :
    (termRows ds : List (TermRow R)).Perm (termRows ds') := by
  have h' : (ds'.map (·.id)).Nodup := (hperm.map _).nodup_iff.mp h
  rw [termRows, termRows, onePerId_of_nodup h, onePerId_of_nodup h']
  exact hperm.flatMap_right _

omit [Scalar R] in
theorem allTerms_perm (hperm : ds.Perm ds') : (allTerms ds).Perm (allTerms ds') := by
  refine (List.perm_ext_iff_of_nodup (nodup_eraseDups _) (nodup_eraseDups _)).mpr fun term => ?_
  rw [← allTerms, ← allTerms, mem_allTerms, mem_allTerms]
  simp only [hperm.mem_iff]

/-- **The rarities that documents bring** do not depend on the order of the documents. -/
theorem Session.freshRarities_perm (hperm : ds.Perm ds') (total delta : Int) :
    (freshRarities ds total delta : List (String × R)).Perm (freshRarities ds' total delta) := by
  have hcount : documentCount ds = documentCount ds' := funext fun term => hperm.countP_eq _
  rw [freshRarities, freshRarities, hcount]
  exact (allTerms_perm hperm).map _

end Search

end CodeAtlas
