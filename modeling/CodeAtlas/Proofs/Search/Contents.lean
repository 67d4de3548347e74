import Mathlib
import CodeAtlas.Proofs.Search.Session

/-!
# What the index holds

The index keeps one document for each identifier. Documents with an identifier come from rows with different
identifiers, so all of them are kept; of the documents of rows without identifier the last one is kept. The terms of a
document stand in the index once each.

## Main definitions

* `Tables.Keyed`: the identifier is the key of the table of nodes
* `keptDocuments`: the documents that an index keeps
* `Document.weight`: the relative frequency of a term of a document

## Main results

* `onePerId_perm`, `termRows_perm_kept`: the documents that an index keeps, and their terms
* `Document.filter_term_rows`: a term stands once among the terms of a document
-/

namespace CodeAtlas

open Store Search

/-- Keys that are present are different if they are different after the missing ones were left out. -/
theorem nodup_map_of_nodup_filterMap {α β : Type} {f : α → Option β} {xs : List α} (h : (xs.filterMap f).Nodup) :
    ((xs.filter fun x => (f x).isSome).map f).Nodup := by
  have heq : (xs.filter fun x => (f x).isSome).map f = (xs.filterMap f).map some := by
    clear h
    induction xs with
    | nil => rfl
    | cons x rest ih => cases hx : f x <;> simp [hx, ih]
  rw [heq]
  exact h.map (Option.some_injective _)

namespace Store.Tables

variable {R : Type} {t : Tables R}

/-- Rows with an identifier have different identifiers. -/
def Keyed (t : Tables R) : Prop :=
  (t.nodes.filterMap (·.id)).Nodup

instance : Decidable t.Keyed :=
  inferInstanceAs (Decidable (List.Nodup _))

/-- A row that is found has the identifier that it was looked up by. A missing identifier has no row. -/
theorem id_of_row?_eq_some {k : NodeId} {r : NodeRow} (h : t.row? k = some r) : r.id = k ∧ r.id.isSome = true := by
  cases k with
  | none => cases h
  | some id =>
    rw [row?] at h
    have hid : r.id = some id := by simpa using List.find?_some h
    exact ⟨hid, by rw [hid]; rfl⟩

/-- The row with an identifier is found under it. -/
theorem Keyed.row?_eq_some (h : t.Keyed) {r : NodeRow} (hr : r ∈ t.nodes) (hid : r.id.isSome = true) :
    t.row? r.id = some r := by
  obtain ⟨id, hid⟩ := Option.isSome_iff_exists.mp hid
  -- rows without identifier play no part
  have hnodup : ((t.nodes.filter (·.id.isSome)).map (·.id)).Nodup := nodup_map_of_nodup_filterMap h
  have hsame : t.nodes.find? (·.id == some id) = (t.nodes.filter (·.id.isSome)).find? (·.id == some id) := by
    rw [List.find?_filter]
    refine congrArg (List.find? · t.nodes) (funext fun r => ?_)
    cases hr : r.id <;> simp [beq_eq_decide]
  rw [hid, row?, hsame, find?_id_eq_some_iff hnodup]
  exact ⟨List.mem_filter.mpr ⟨hr, by rw [hid]; rfl⟩, hid⟩

theorem nodup_filterMap_id_searchable (h : t.Keyed) : (t.searchable.filterMap (·.id)).Nodup := by
  rw [(t.searchable_perm_filter.filterMap _).nodup_iff]
  exact (List.filter_sublist.filterMap _).nodup h

end Store.Tables

namespace Search

/-! ## The documents that are kept -/

variable {d : Document} {ds : List Document}

/-- The documents that an index keeps: all with an identifier, and the last one without. -/
def keptDocuments (ds : List Document) : List Document :=
  ds.filter (·.id.isSome) ++ (ds.filter (·.id.isNone)).getLast?.toList

theorem id_of_mem_last (h : d ∈ (ds.filter (·.id.isNone)).getLast?.toList) : d.id = none := by
  simpa using (List.mem_filter.mp (List.mem_of_getLast? (Option.mem_toList.mp h))).2

theorem mem_of_mem_keptDocuments (h : d ∈ keptDocuments ds) : d ∈ ds := by
  rcases List.mem_append.mp h with h | h
  · exact List.mem_of_mem_filter h
  · exact List.mem_of_mem_filter (List.mem_of_getLast? (Option.mem_toList.mp h))

theorem mem_keptDocuments_of_isSome (hd : d ∈ ds) (hid : d.id.isSome = true) : d ∈ keptDocuments ds :=
  List.mem_append_left _ (List.mem_filter.mpr ⟨hd, hid⟩)

theorem putDocument_perm (h : (ds.map (·.id)).Nodup) : (putDocument d ds).Perm (d :: ds.filter (·.id != d.id)) := by
  induction ds with
  | nil => exact List.Perm.refl _
  | cons e rest ih =>
    obtain ⟨he, hrest⟩ := List.nodup_cons.mp h
    rw [putDocument]
    by_cases hid : e.id = d.id
    · have hothers : rest.filter (·.id != d.id) = rest := by
        refine List.filter_eq_self.mpr fun e' hm => ?_
        simpa using fun heq : e'.id = d.id => he (List.mem_map.mpr ⟨e', hm, heq.trans hid.symm⟩)
      rw [if_pos hid, List.filter_cons_of_neg (by simpa using hid), hothers]
    · rw [if_neg hid, List.filter_cons_of_pos (by simpa using hid)]
      exact ((ih hrest).cons e).trans (List.Perm.swap _ _ _)

theorem nodup_map_id_keptDocuments (h : (ds.filterMap (·.id)).Nodup) : ((keptDocuments ds).map (·.id)).Nodup := by
  rw [keptDocuments, List.map_append]
  refine List.Nodup.append (nodup_map_of_nodup_filterMap h) ?_ ?_
  · cases (ds.filter (·.id.isNone)).getLast? <;> simp
  · -- what stands in front has an identifier, and what comes last has none
    intro id hfront hlast
    obtain ⟨e, he, rfl⟩ := List.mem_map.mp hlast
    rw [id_of_mem_last he] at hfront
    obtain ⟨e', he', hid⟩ := List.mem_map.mp hfront
    simp [hid] at he'

/-- **The documents that an index keeps**, up to their order. -/
theorem onePerId_perm (h : (ds.filterMap (·.id)).Nodup) : (onePerId ds).Perm (keptDocuments ds) := by
  induction ds using List.reverseRecOn with
  | nil => exact List.Perm.refl _
  | append_singleton ds d ih =>
    rw [List.filterMap_append] at h
    have hds : (ds.filterMap (·.id)).Nodup := List.Nodup.of_append_left h
    have hperm := ih hds
    have hids : ((onePerId ds).map (·.id)).Nodup := (hperm.map _).nodup_iff.mpr (nodup_map_id_keptDocuments hds)
    have hput : (onePerId (ds ++ [d])).Perm (d :: (keptDocuments ds).filter (·.id != d.id)) := by
      rw [onePerId, List.foldl_append]
      exact (putDocument_perm hids).trans ((hperm.filter _).cons d)
    refine hput.trans ?_
    cases hid : d.id with
    | none =>
      -- the new document takes the place of the last one without identifier
      have hothers : (keptDocuments ds).filter (·.id != none) = ds.filter (·.id.isSome) := by
        rw [keptDocuments, List.filter_append, List.filter_filter]
        have hlast : (ds.filter (·.id.isNone)).getLast?.toList.filter (·.id != none) = [] := by
          refine List.filter_eq_nil_iff.mpr fun e he => ?_
          simp [id_of_mem_last he]
        rw [hlast, List.append_nil]
        refine List.filter_congr fun e _ => ?_
        cases e.id <;> rfl
      rw [hothers]
      have hkept : keptDocuments (ds ++ [d]) = ds.filter (·.id.isSome) ++ [d] := by simp [keptDocuments, hid]
      rw [hkept]
      exact (List.perm_append_singleton _ _).symm
    | some id =>
      -- no document so far has this identifier
      have hothers : (keptDocuments ds).filter (·.id != some id) = keptDocuments ds := by
        refine List.filter_eq_self.mpr fun e he => ?_
        have hnot : e.id ≠ some id := by
          intro heq
          have hmem : id ∈ ds.filterMap (·.id) := List.mem_filterMap.mpr ⟨e, mem_of_mem_keptDocuments he, heq⟩
          exact List.disjoint_of_nodup_append h hmem (by simp [hid])
        simpa using hnot
      rw [hothers]
      have hkept : keptDocuments (ds ++ [d]) =
          ds.filter (·.id.isSome) ++ d :: (ds.filter (·.id.isNone)).getLast?.toList := by
        simp [keptDocuments, hid]
      rw [hkept]
      exact List.perm_middle.symm

theorem nodup_filterMap_id_documents {R : Type} {t : Tables R} (h : t.Keyed) :
    ((t.searchable.map Document.ofRow).filterMap (·.id)).Nodup := by
  rw [List.filterMap_map]
  exact Tables.nodup_filterMap_id_searchable h

/-! ## The terms of a document -/

variable {R : Type} [Scalar R]

/-- The relative frequency of a term of a document. -/
def Document.weight (d : Document) (term : String) : R :=
  Scalar.ratio (d.terms.count term) (((termCounts d.terms).map (·.2)).foldl max 0 : Nat)

theorem Document.rows_eq (d : Document) :
    d.rows = d.terms.eraseDups.map fun term => ({ node := d.id, term, weight := d.weight term } : TermRow R) := by
  simp only [rows, termWeights, termCounts, List.map_map, weight]
  rfl

/-- **A term stands once** among the terms of a document that has it. -/
theorem Document.filter_term_rows (d : Document) (term : String) :
    d.rows.filter (·.term == term) =
      if term ∈ d.terms then [({ node := d.id, term, weight := d.weight term } : TermRow R)] else [] := by
  rw [rows_eq, List.filter_map]
  have honce : d.terms.eraseDups.filter (· == term) = if term ∈ d.terms then [term] else [] := by
    rw [List.filter_beq]
    split
    · next hmem => rw [List.count_eq_one_of_mem (nodup_eraseDups _) (List.mem_eraseDups.mpr hmem), List.replicate_one]
    · next hnot => rw [List.count_eq_zero_of_not_mem (mt List.mem_eraseDups.mp hnot), List.replicate_zero]
  change (d.terms.eraseDups.filter (· == term)).map _ = _
  rw [honce]
  split <;> rfl

/-- Which terms belong to some nodes can be seen from the documents. -/
theorem filter_node_flatMap_rows (ds : List Document) (p : NodeId → Bool) :
    (ds.flatMap Document.rows : List (TermRow R)).filter (fun x => p x.node) =
      (ds.filter fun d => p d.id).flatMap Document.rows := by
  induction ds with
  | nil => rfl
  | cons d rest ih =>
    rw [List.flatMap_cons, List.filter_append, ih]
    cases hp : p d.id with
    | false =>
      rw [List.filter_cons_of_neg (by simp [hp]),
        List.filter_eq_nil_iff.mpr fun x hx => by simp [node_of_mem_rows hx, hp], List.nil_append]
    | true =>
      rw [List.filter_cons_of_pos (by simpa using hp), List.flatMap_cons,
        List.filter_eq_self.mpr fun x hx => by rw [node_of_mem_rows hx, hp]]

/-- The terms in the index are those of the documents that it keeps. -/
theorem termRows_perm_kept (h : (ds.filterMap (·.id)).Nodup) :
    (termRows ds : List (TermRow R)).Perm ((keptDocuments ds).flatMap Document.rows) :=
  (onePerId_perm h).flatMap_right _

end Search

end CodeAtlas
