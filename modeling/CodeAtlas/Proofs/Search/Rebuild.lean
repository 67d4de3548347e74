import Mathlib
import CodeAtlas.Proofs.Search.Relevance

/-!
# Bringing the index up to date, compared with building it anew

The index was built for a table of nodes. Then rows with some identifiers are added, removed or changed, and the index is
brought up to date for these identifiers. Its terms are then those of an index that is built anew, whatever the engine
knows and takes to be the number of nodes.

The rarities may be others, even if all of them are computed anew. An engine that knows no rarities counts the nodes when
it reads the rarities; that is after the rows have changed, and then it adds the change of their number once more.

## Main definitions

* `DifferOnlyIn`: tables of nodes that differ only in rows with some identifiers
* `Session.countedFrom`: the number of nodes that an update starts from
* `Tables.countNamedWith`: how many rows with an identifier have a term

## Main results

* `terms_update_perm_build`: the terms of the index are those of an index that is built anew
* `indexedCount_add_documentCount`: in how many rows a term occurs, as an update counts them
* `rarity_update_eq_build_iff`: when an update ends well, and when the rarities that it computes are right
-/

namespace CodeAtlas

open Store Search

open scoped List

namespace Store

/-- Two tables of nodes differ only in rows with some identifiers. -/
structure DifferOnlyIn (ids : List NodeId) (rows rows' : List NodeRow) : Prop where
  /-- All other rows with an identifier are in both. -/
  others : ∀ r, r.id.isSome = true → r.id ∉ ids → (r ∈ rows ↔ r ∈ rows')
  /-- Rows without identifier are in both, in the same order. -/
  nameless : rows.filter (·.id.isNone) = rows'.filter (·.id.isNone)

/-- In this form it can be decided. -/
theorem differOnlyIn_iff {ids : List NodeId} {rows rows' : List NodeRow} :
    DifferOnlyIn ids rows rows' ↔
      (∀ r ∈ rows, r.id.isSome = true → r.id ∉ ids → r ∈ rows') ∧
      (∀ r ∈ rows', r.id.isSome = true → r.id ∉ ids → r ∈ rows) ∧
      rows.filter (·.id.isNone) = rows'.filter (·.id.isNone) := by
  constructor
  · intro h
    exact ⟨fun r hr hid hother => (h.others r hid hother).mp hr,
      fun r hr hid hother => (h.others r hid hother).mpr hr, h.nameless⟩
  · rintro ⟨hkept, hold, hnameless⟩
    exact ⟨fun r hid hother => ⟨fun hr => hkept r hr hid hother, fun hr => hold r hr hid hother⟩, hnameless⟩

namespace DifferOnlyIn

variable {R : Type} {t t' : Tables R} {ids : List NodeId}

theorem filter_isNone_searchable (h : DifferOnlyIn ids t.nodes t'.nodes) :
    t.searchable.filter (·.id.isNone) = t'.searchable.filter (·.id.isNone) := by
  have hcomm : ∀ t : Tables R, t.searchable.filter (·.id.isNone) =
      Node.searchableKinds.flatMap fun kind => (t.nodes.filter (·.id.isNone)).filter (·.kind == kind) := by
    intro t
    simp only [Tables.searchable, List.filter_flatMap, List.filter_comm]
  rw [hcomm, hcomm, h.nameless]

theorem filter_others_searchable_perm (h : DifferOnlyIn ids t.nodes t'.nodes) (hkeyed : t.Keyed) (hkeyed' : t'.Keyed) :
    (t.searchable.filter fun r => r.id.isSome && !ids.contains r.id).Perm
      (t'.searchable.filter fun r => r.id.isSome && !ids.contains r.id) := by
  -- different rows have different identifiers, so only membership counts
  have hnodup : ∀ t : Tables R, t.Keyed → (t.searchable.filter fun r => r.id.isSome && !ids.contains r.id).Nodup := by
    intro t ht
    have hsome : (t.searchable.filter (·.id.isSome)).Nodup :=
      (nodup_map_of_nodup_filterMap (Tables.nodup_filterMap_id_searchable ht)).of_map
    simpa only [List.filter_filter, Bool.and_comm] using hsome.filter (!ids.contains ·.id)
  apply (List.perm_ext_iff_of_nodup (hnodup t hkeyed) (hnodup t' hkeyed')).mpr
  intro r
  simp only [List.mem_filter, Tables.mem_searchable, Bool.and_eq_true, Bool.not_eq_true', List.contains_eq_mem,
    decide_eq_false_iff_not]
  constructor
  · rintro ⟨⟨hr, hsearch⟩, hid, hother⟩
    exact ⟨⟨(h.others r hid hother).mp hr, hsearch⟩, hid, hother⟩
  · rintro ⟨⟨hr, hsearch⟩, hid, hother⟩
    exact ⟨⟨(h.others r hid hother).mpr hr, hsearch⟩, hid, hother⟩

end DifferOnlyIn

end Store

/-! ## Terms -/

namespace Search

section Terms

variable {ids : List NodeId}

/-- An index keeps all documents with some identifiers. -/
theorem filter_chosen_keptDocuments (ds : List Document) (ids : List NodeId) :
    (keptDocuments ds).filter (fun d => d.id.isSome && ids.contains d.id) =
      ds.filter fun d => d.id.isSome && ids.contains d.id := by
  have hlast : (ds.filter (·.id.isNone)).getLast?.toList.filter (fun d => d.id.isSome && ids.contains d.id) = [] := by
    apply List.filter_eq_nil_iff.mpr
    intro d hd
    simp [id_of_mem_last hd]
  rw [keptDocuments, List.filter_append, hlast, List.append_nil, List.filter_filter]
  refine List.filter_congr fun d _ => ?_
  cases d.id.isSome <;> simp

/-- The documents that an index keeps without those with some identifiers. -/
theorem filter_others_keptDocuments (ds : List Document) (ids : List NodeId) :
    (keptDocuments ds).filter (fun d => !(d.id.isSome && ids.contains d.id)) =
      ds.filter (fun d => d.id.isSome && !ids.contains d.id) ++ (ds.filter (·.id.isNone)).getLast?.toList := by
  have hlast : (ds.filter (·.id.isNone)).getLast?.toList.filter (fun d => !(d.id.isSome && ids.contains d.id)) =
      (ds.filter (·.id.isNone)).getLast?.toList := by
    apply List.filter_eq_self.mpr
    intro d hd
    simp [id_of_mem_last hd]
  rw [keptDocuments, List.filter_append, hlast, List.filter_filter]
  congr 1
  refine List.filter_congr fun d _ => ?_
  cases d.id.isSome <;> simp

variable {R : Type} {t t' : Tables R}

/-- The documents that an update puts into the index are all documents with its identifiers. -/
theorem chosenRows_documents_perm (t : Tables R) (ids : List NodeId) :
    ((chosenRows t ids).map Document.ofRow).Perm
      ((keptDocuments (t.searchable.map Document.ofRow)).filter fun d => d.id.isSome && ids.contains d.id) := by
  rw [filter_chosen_keptDocuments, List.filter_map]
  exact (chosenRows_perm_filter t ids).map _

/-- All other documents are the same in tables that differ only in rows with these identifiers. -/
theorem filter_others_documents_perm (hdiff : DifferOnlyIn ids t.nodes t'.nodes) (h : t.Keyed) (h' : t'.Keyed) :
    ((keptDocuments (t.searchable.map Document.ofRow)).filter fun d => !(d.id.isSome && ids.contains d.id)).Perm
      ((keptDocuments (t'.searchable.map Document.ofRow)).filter fun d => !(d.id.isSome && ids.contains d.id)) := by
  rw [filter_others_keptDocuments, filter_others_keptDocuments]
  apply List.Perm.append
  · simp only [List.filter_map]
    exact (hdiff.filter_others_searchable_perm h h').map _
  · have hsame : (t.searchable.map Document.ofRow).filter (·.id.isNone) =
        (t'.searchable.map Document.ofRow).filter (·.id.isNone) := by
      simp only [List.filter_map]
      exact congrArg (List.map Document.ofRow) hdiff.filter_isNone_searchable
    rw [hsame]

variable [Scalar R]

/-- What is left of the terms of a built index when those of the changed rows are taken out. -/
theorem terms_dropTerms_perm (hdiff : DifferOnlyIn ids t.nodes t'.nodes) (h : t.Keyed) (h' : t'.Keyed)
    (hterms : t'.terms.Perm (Session.builtTables t).terms) :
    (t'.dropTerms ids).terms.Perm (((keptDocuments (t'.searchable.map Document.ofRow)).filter fun d =>
      !(d.id.isSome && ids.contains d.id)).flatMap Document.rows) := by
  calc (t'.dropTerms ids).terms
      _ ~ ((keptDocuments (t.searchable.map Document.ofRow)).flatMap Document.rows).filter
            (fun x => !(x.node.isSome && ids.contains x.node)) :=
          (hterms.trans (termRows_perm_kept (nodup_filterMap_id_documents h))).filter _
      _ = ((keptDocuments (t.searchable.map Document.ofRow)).filter
            fun d => !(d.id.isSome && ids.contains d.id)).flatMap Document.rows :=
          filter_node_flatMap_rows _ fun id => !(id.isSome && ids.contains id)
      _ ~ _ := (filter_others_documents_perm hdiff h h').flatMap_right _

/-- The terms of the rows that an update chooses. -/
theorem termRows_chosenRows_perm (h : t.Keyed) (ids : List NodeId) :
    (termRows ((chosenRows t ids).map Document.ofRow) : List (TermRow R)).Perm
      (((keptDocuments (t.searchable.map Document.ofRow)).filter fun d =>
        d.id.isSome && ids.contains d.id).flatMap Document.rows) := by
  have hperm := chosenRows_documents_perm t ids
  have hids : (((chosenRows t ids).map Document.ofRow).map (·.id)).Nodup := by
    rw [(hperm.map _).nodup_iff]
    exact (List.filter_sublist.map _).nodup (nodup_map_id_keptDocuments (nodup_filterMap_id_documents h))
  rw [termRows, onePerId_of_nodup hids]
  exact hperm.flatMap_right _

/-- **The terms of the changed rows, taken out and put in again**, are those of an index that is built anew. -/
theorem dropTerms_append_termRows_perm (hdiff : DifferOnlyIn ids t.nodes t'.nodes) (h : t.Keyed) (h' : t'.Keyed)
    (hterms : t'.terms.Perm (Session.builtTables t).terms) :
    ((t'.dropTerms ids).terms ++ termRows ((chosenRows t' ids).map Document.ofRow)).Perm
      (Session.builtTables t').terms := by
  have hsplit := List.filter_append_perm (fun d : Document => d.id.isSome && ids.contains d.id)
    (keptDocuments (t'.searchable.map Document.ofRow))
  calc (t'.dropTerms ids).terms ++ termRows ((chosenRows t' ids).map Document.ofRow)
      _ ~ _ := (terms_dropTerms_perm hdiff h h' hterms).append (termRows_chosenRows_perm h' ids)
      _ ~ _ := List.perm_append_comm
      _ = _ := List.flatMap_append.symm
      _ ~ _ := hsplit.flatMap_right _
      _ ~ (Session.builtTables t').terms := (termRows_perm_kept (nodup_filterMap_id_documents h')).symm

omit [Scalar R] in
theorem terms_foldl_putRarity (values : List (String × R)) (t : Tables R) :
    (values.foldl (fun t value => t.putRarity value.1 value.2) t).terms = t.terms := by
  induction values generalizing t with
  | nil => rfl
  | cons value rest ih => exact ih _

/-- The terms after the index was brought up to date, in whatever way. -/
theorem terms_update {s : Session R} {delta : Int} (hok : (s.update ids delta).1 = .ok ()) :
    (s.update ids delta).2.connection.view.terms =
      (s.connection.view.dropTerms ids).terms ++ termRows (s.documentsOf ids) := by
  have h := s.updated ids delta
  generalize s.update ids delta = result at h hok ⊢
  cases h with
  | nothing hids =>
    subst hids
    simp [Session.documentsOf, Tables.chosenRows_nil, Tables.dropTerms, termRows, onePerId]
  | refused => cases hok
  | dropped hids hopen hfew hnone => simp [Session.documentsOf, hnone, termRows, onePerId]
  | failed => cases hok
  | indexed values =>
    exact congrArg (· ++ termRows (s.documentsOf ids)) (terms_foldl_putRarity values _)

end Terms

/-! ## How an update ends -/

namespace Session

variable {R : Type} {s : Session R} {ids : List NodeId} {delta : Int}

/-- The number of nodes that an update starts from: the nodes that there are now if the engine knows no rarities, and
otherwise the number that it remembers. -/
def countedFrom (s : Session R) : Int :=
  if s.engine.rarity.isEmpty then s.connection.view.searchable.length else s.engine.total

theorem total_counting (s : Session R) (delta : Int) : (s.counting delta).total = s.countedFrom + delta := by
  unfold counting countedFrom
  split <;> rfl

variable [Scalar R]

theorem newRarities_of_needsRecount (ds : List Document) {e : Engine R} (t : Tables R)
    (h : needsRecount e.total delta = true) : newRarities ds delta e t =
      .ok ((allTerms ds).map fun term => (term, rarity e.total (indexedCount t term + documentCount ds term))) := by
  rw [newRarities, if_pos h]

/-- **When new rarities can be computed**: the number of nodes is not negative, or all terms are known. -/
theorem exists_newRarities_iff (ds : List Document) (delta : Int) (e : Engine R) (t : Tables R) :
    (∃ values, newRarities ds delta e t = .ok values) ↔
      0 ≤ e.total ∨ ∀ term ∈ allTerms ds, term ∈ e.rarity.map (·.1) := by
  have hknown : (∀ term ∈ allTerms ds, term ∈ e.rarity.map (·.1)) ↔
      (allTerms ds).filter (fun term => !e.rarity.any (·.1 == term)) = [] := by
    simp [List.filter_eq_nil_iff]
  by_cases hrecount : needsRecount e.total delta = true
  · -- the rarities are only computed anew if there are nodes
    have hpos : 0 ≤ e.total := by
      simp only [needsRecount, Bool.and_eq_true, decide_eq_true_eq] at hrecount
      omega
    exact ⟨fun _ => Or.inl hpos, fun _ => ⟨_, newRarities_of_needsRecount ds t hrecount⟩⟩
  rw [hknown, newRarities, if_neg hrecount]
  cases (allTerms ds).filter (fun term => !e.rarity.any (·.1 == term)) with
  | nil => simp
  | cons term rest =>
    simp only [reduceCtorEq, or_false]
    split
    · simp only [reduceCtorEq, exists_false, false_iff]
      omega
    · simp only [Except.ok.injEq, exists_eq', true_iff]
      omega

/-- **When an update ends well** on an open connection. -/
theorem update_eq_ok_iff (hopen : s.connection.isOpen = true) :
    (s.update ids delta).1 = .ok () ↔ ids.length ≤ s.connection.limits.maxVariables ∧
      (0 ≤ s.countedFrom + delta ∨
        ∀ term ∈ allTerms (s.documentsOf ids), term ∈ (s.counting delta).rarity.map (·.1)) := by
  have hiff := exists_newRarities_iff (s.documentsOf ids) delta (s.counting delta) (s.connection.view.dropTerms ids)
  rw [← total_counting, ← hiff]
  -- without chosen rows there are no rarities to compute
  have hnothing : chosenRows s.connection.view ids = [] →
      ∃ values, newRarities (s.documentsOf ids) delta (s.counting delta) (s.connection.view.dropTerms ids) = .ok values := by
    intro hnone
    apply hiff.mpr
    right
    simp [documentsOf, hnone, allTerms]
  have h := s.updated ids delta
  generalize s.update ids delta = result at h ⊢
  cases h with
  | nothing hids =>
    subst hids
    simpa using hnothing (Tables.chosenRows_nil _)
  | refused f hids hrefused =>
    have hmany : s.connection.limits.maxVariables < ids.length := hrefused.resolve_left (by simp [hopen])
    simp [Nat.not_le.mpr hmany]
  | dropped hids hopen hfew hnone => simp [hfew, hnothing hnone]
  | failed f hids hopen hfew hsome hvalues => simp [hvalues]
  | indexed values hids hopen hfew hsome hvalues => simp [hfew, hvalues]

end Session

end Search

/-- **The terms of an index that was brought up to date are those of an index that is built anew**, each of them once.
The index holds the terms of an earlier table of nodes, and the table has changed since, only in rows with the
identifiers for which the index is brought up to date. It does not matter what the engine knows, and what it takes to be
the change of the number of nodes. -/
theorem terms_update_perm_build {R : Type} [Scalar R] (earlier s : Session R) (ids : List NodeId) (delta : Int)
    (hopen : earlier.connection.isOpen = true ∧ s.connection.isOpen = true)
    (hkeyed : earlier.connection.view.Keyed ∧ s.connection.view.Keyed)
    (hdiff : DifferOnlyIn ids earlier.connection.view.nodes s.connection.view.nodes)
    (hterms : s.connection.view.terms.Perm earlier.build.2.connection.view.terms)
    (hok : (s.update ids delta).1 = .ok ()) :
    (s.update ids delta).2.connection.view.terms.Perm s.build.2.connection.view.terms := by
  rw [Session.view_build hopen.1] at hterms
  rw [terms_update hok, Session.view_build hopen.2]
  exact dropTerms_append_termRows_perm hdiff hkeyed.1 hkeyed.2 hterms

/-- A function gets another name, one is gone and one is new. The engine knows one rarity, a wrong number of nodes and a
wrong change of this number. -/
theorem terms_after_changes_perm_build :
    let earlier : Session ℝ := { connection := { committed := { nodes :=
      [functionRow (some "a") "fetch", functionRow (some "b") "load", functionRow (some "c") "drop",
        functionRow none "read"] } } }
    let s : Session ℝ := {
      connection := { committed := { earlier.build.2.connection.view with nodes :=
        [functionRow (some "b") "load", functionRow none "read", functionRow (some "d") "save",
          functionRow (some "a") "fetch_users"] } }
      engine := { rarity := [("load", 3)], total := 7 } }
    let ids := [some "a", some "c", some "d"]
    DifferOnlyIn ids earlier.connection.view.nodes s.connection.view.nodes ∧ (s.update ids 5).1 = .ok () ∧
      (s.update ids 5).2.connection.view.terms.Perm s.build.2.connection.view.terms := by
  intro earlier s ids
  have hkeyed : earlier.connection.view.Keyed ∧ s.connection.view.Keyed := by decide +kernel
  have hdiff : DifferOnlyIn ids earlier.connection.view.nodes s.connection.view.nodes :=
    differOnlyIn_iff.mpr (by decide +kernel)
  have hok : (s.update ids 5).1 = .ok () := by
    apply (Session.update_eq_ok_iff rfl).mpr
    exact ⟨by decide, Or.inl (by decide)⟩
  exact ⟨hdiff, hok, terms_update_perm_build earlier s ids 5 ⟨rfl, rfl⟩ hkeyed hdiff (List.Perm.refl _) hok⟩

/-! ## How an update counts -/

namespace Store.Tables

/-- How many rows that are searched and have an identifier have a term. -/
def countNamedWith {R : Type} (t : Tables R) (term : String) : ℕ :=
  t.nodes.countP fun r => r.isSearchable && (r.id.isSome && r.tokens.contains term)

theorem countNamedWith_eq_countWith {R : Type} {t : Tables R} {term : String}
    (h : ∀ r ∈ t.nodes, r.isSearchable = true → term ∈ r.tokens → r.id.isSome = true) :
    t.countNamedWith term = t.countWith term := by
  refine List.countP_congr fun r hr => ?_
  simp only [Bool.and_eq_true, List.contains_eq_mem, decide_eq_true_eq]
  constructor
  · rintro ⟨hsearch, -, hterm⟩
    exact ⟨hsearch, hterm⟩
  · rintro ⟨hsearch, hterm⟩
    exact ⟨hsearch, h r hr hsearch hterm, hterm⟩

end Store.Tables

namespace Search

section Counts

variable {R : Type} [Scalar R] {t t' : Tables R} {ids : List NodeId} {ds : List Document}

theorem filterMap_id_keptDocuments (ds : List Document) : (keptDocuments ds).filterMap (·.id) = ds.filterMap (·.id) := by
  have hlast : (ds.filter (·.id.isNone)).getLast?.toList.filterMap (·.id) = [] := by
    apply List.filterMap_eq_nil_iff.mpr
    intro d hd
    exact id_of_mem_last hd
  rw [keptDocuments, List.filterMap_append, hlast, List.append_nil, List.filterMap_filter]
  refine List.filterMap_congr fun d _ => ?_
  cases d.id <;> rfl

theorem countP_named_keptDocuments (ds : List Document) (p : Document → Bool) :
    (keptDocuments ds).countP (fun d => d.id.isSome && p d) = ds.countP fun d => d.id.isSome && p d := by
  have hlast : ((ds.filter (·.id.isNone)).getLast?.toList.countP fun d => d.id.isSome && p d) = 0 := by
    apply List.countP_eq_zero.mpr
    intro d hd
    simp [id_of_mem_last hd]
  rw [keptDocuments, List.countP_append, hlast, Nat.add_zero, List.countP_filter]
  refine List.countP_congr fun d _ => ?_
  cases d.id <;> simp

/-- The identifiers that stand with a term are those of the documents that have it. -/
theorem filterMap_node_filter_term (ds : List Document) (term : String) :
    ((ds.flatMap Document.rows : List (TermRow R)).filter (·.term == term)).filterMap (·.node) =
      (ds.filter (·.terms.contains term)).filterMap (·.id) := by
  induction ds with
  | nil => rfl
  | cons d rest ih =>
    rw [List.flatMap_cons, List.filter_append, List.filterMap_append, ih, Document.filter_term_rows]
    by_cases hterm : term ∈ d.terms
    · cases hid : d.id <;> simp [hterm, hid]
    · simp [hterm]

/-- The number of nodes of an index that have a term, if the index holds the terms of documents with different
identifiers. -/
theorem indexedCount_of_perm (hids : (ds.filterMap (·.id)).Nodup) (hterms : t.terms.Perm (ds.flatMap Document.rows))
    (term : String) : indexedCount t term = ds.countP fun d => d.id.isSome && d.terms.contains term := by
  have hperm := (hterms.filter (·.term == term)).filterMap (·.node)
  rw [filterMap_node_filter_term] at hperm
  have hnodup : ((ds.filter (·.terms.contains term)).filterMap (·.id)).Nodup :=
    (List.filter_sublist.filterMap _).nodup hids
  -- no identifier stands there twice, so leaving out repetitions changes nothing
  have hdistinct := (List.perm_ext_iff_of_nodup (nodup_eraseDups _) (hperm.nodup_iff.mpr hnodup)).mpr fun _ =>
    List.mem_eraseDups
  rw [indexedCount, hdistinct.length_eq, hperm.length_eq, List.length_filterMap_eq_countP, List.countP_filter]

/-- **In how many rows a term occurs, as an update counts them**: in the rows of the index that are left, and in those
that it puts in. They are all rows with an identifier. -/
theorem indexedCount_add_documentCount (hdiff : DifferOnlyIn ids t.nodes t'.nodes) (h : t.Keyed) (h' : t'.Keyed)
    (hterms : t'.terms.Perm (Session.builtTables t).terms) (term : String) :
    indexedCount (t'.dropTerms ids) term + documentCount ((chosenRows t' ids).map Document.ofRow) term =
      t'.countNamedWith term := by
  set ds := t'.searchable.map Document.ofRow with hds
  have hids : (((keptDocuments ds).filter fun d => !(d.id.isSome && ids.contains d.id)).filterMap (·.id)).Nodup := by
    refine (List.filter_sublist.filterMap _).nodup ?_
    rw [filterMap_id_keptDocuments]
    exact nodup_filterMap_id_documents h'
  have hleft := indexedCount_of_perm hids (terms_dropTerms_perm hdiff h h' hterms) term
  have hput : documentCount ((chosenRows t' ids).map Document.ofRow) term =
      ((keptDocuments ds).filter fun d => d.id.isSome && ids.contains d.id).countP
        fun d => d.id.isSome && d.terms.contains term := by
    rw [documentCount, (chosenRows_documents_perm t' ids).countP_eq]
    refine List.countP_congr fun d hd => ?_
    simp_all
  calc indexedCount (t'.dropTerms ids) term + documentCount ((chosenRows t' ids).map Document.ofRow) term
      = (keptDocuments ds).countP fun d => d.id.isSome && d.terms.contains term := by
        rw [hleft, hput, Nat.add_comm]
        exact (List.countP_eq_countP_filter_add _ _ _).symm
    _ = ds.countP fun d => d.id.isSome && d.terms.contains term := countP_named_keptDocuments ds _
    _ = t'.countNamedWith term := by
        rw [hds, List.countP_map, t'.searchable_perm_filter.countP_eq, List.countP_filter, Tables.countNamedWith]
        refine List.countP_congr fun r _ => ?_
        rw [Function.comp_apply, terms_ofRow_eq_tokens, Bool.and_comm]
        rfl

omit [Scalar R] in
/-- Rarities that are put into the table are there afterwards. -/
theorem lookup_foldl_putRarity (f : String → R) (terms : List String) (t : Tables R) (term : String) :
    ((terms.map fun term => (term, f term)).foldl (fun t value => t.putRarity value.1 value.2) t).rarity.lookup term =
      if term ∈ terms then some (f term) else t.rarity.lookup term := by
  induction terms generalizing t with
  | nil => rfl
  | cons first rest ih =>
    rw [List.map_cons, List.foldl_cons, ih, Tables.putRarity, Tables.lookup_putLast]
    by_cases hrest : term ∈ rest
    · simp [hrest]
    · by_cases hfirst : term = first <;> simp [hrest, hfirst]

omit [Scalar R] in
theorem mem_allTerms_documentsOf {s : Session R} {term : String} :
    term ∈ allTerms (s.documentsOf ids) ↔ ∃ r ∈ chosenRows s.connection.view ids, term ∈ r.tokens := by
  rw [mem_allTerms, Session.documentsOf]
  simp [terms_ofRow_eq_tokens]

/-- **The rarities that an update computes anew.** -/
theorem Session.lookup_rarity_update {s : Session R} {delta : Int} (hopen : s.connection.isOpen = true)
    (hfew : ids.length ≤ s.connection.limits.maxVariables)
    (hrecount : needsRecount (s.countedFrom + delta) delta = true) {term : String}
    (hterm : term ∈ allTerms (s.documentsOf ids)) :
    (s.update ids delta).2.connection.view.rarity.lookup term = some (rarity (s.countedFrom + delta)
      (indexedCount (s.connection.view.dropTerms ids) term + documentCount (s.documentsOf ids) term)) := by
  rw [← total_counting] at hrecount
  have hvalues := newRarities_of_needsRecount (s.documentsOf ids) (s.connection.view.dropTerms ids) hrecount
  have hsome : chosenRows s.connection.view ids ≠ [] := by
    obtain ⟨r, hr, -⟩ := mem_allTerms_documentsOf.mp hterm
    exact List.ne_nil_of_mem hr
  have h := s.updated ids delta
  generalize s.update ids delta = result at h ⊢
  cases h with
  | nothing hids => exact absurd (hids ▸ Tables.chosenRows_nil _) hsome
  | refused f hids hrefused =>
    rcases hrefused with hclosed | hmany
    · simp [hopen] at hclosed
    · omega
  | dropped hids hopen hfew hnone => exact absurd hnone hsome
  | failed f hids hopen hfew hsome hfailed =>
    rw [hvalues] at hfailed
    cases hfailed
  | indexed values hids hopen hfew hsome hok =>
    rw [hvalues] at hok
    obtain rfl := Except.ok.inj hok
    refine (lookup_foldl_putRarity _ _ _ term).trans ?_
    rw [if_pos hterm, total_counting]

end Counts

end Search

/-! ## Rarities in real numbers -/

/-- The rarity that a built index has for a term. -/
theorem lookup_builtTables {t : Tables ℝ} {term : String} (hterm : term ∈ t.vocabulary) :
    (Session.builtTables t).rarity.lookup term = some (t.inverseFrequency term) := by
  rw [rarity_builtTables, lookup_map_self, if_pos (mem_allTerms_searchable.mpr hterm)]

/-- A rarity is right only if it is taken for the right number of rows. -/
theorem rarity_eq_inverseFrequency_iff {t : Tables ℝ} {total : ℤ} (hpos : 0 < total) (term : String) :
    (rarity total (t.countWith term) : ℝ) = t.inverseFrequency term ↔ total = t.searchedCount := by
  have htotal : (0 : ℝ) < total + 1 := by exact_mod_cast Int.add_pos hpos one_pos
  have hsearched : (0 : ℝ) < t.searchedCount + 1 := by positivity
  have hfound : (0 : ℝ) < t.countWith term + 1 := by positivity
  rw [rarity_real, Tables.inverseFrequency, Int.cast_natCast, add_left_inj]
  -- the logarithm is injective on positive numbers
  rw [Real.log_injOn_pos.eq_iff (div_pos htotal hfound) (div_pos hsearched hfound), div_left_inj' hfound.ne',
    add_left_inj]
  norm_cast

/-- **When an update ends well, and when the rarities that it computes are right**, in real numbers. The index was built
for an earlier table of nodes, the table has changed since, only in rows with the identifiers for which the index is
brought up to date, and the update is told the true change of the number of rows that are searched. The engine knows no
rarities, or those of the table.

The update fails only if there are too many identifiers, or if the number of nodes that it comes to is negative and a row
has a term that no row had before. If it computes rarities anew, it takes them for the number of nodes that it comes to;
they are those of an index that is built anew only if it starts from the number of rows of the earlier table. An engine
that knows no rarities starts from the number of rows that there are now. -/
theorem rarity_update_eq_build_iff (earlier s : Session ℝ) (ids : List NodeId) (delta : Int)
    (hopen : earlier.connection.isOpen = true ∧ s.connection.isOpen = true)
    (hkeyed : earlier.connection.view.Keyed ∧ s.connection.view.Keyed)
    (hdiff : DifferOnlyIn ids earlier.connection.view.nodes s.connection.view.nodes)
    (hterms : s.connection.view.terms.Perm earlier.build.2.connection.view.terms)
    (hrarity : s.connection.view.rarity.Perm earlier.build.2.connection.view.rarity)
    (hknown : s.engine.rarity = [] ∨ s.engine.rarity.Perm s.connection.view.rarity)
    (hdelta : delta = s.connection.view.searchedCount - earlier.connection.view.searchedCount) :
    ((s.update ids delta).1 = .ok () ↔ ids.length ≤ s.connection.limits.maxVariables ∧
      (0 ≤ s.countedFrom + delta ∨ ∀ r ∈ chosenRows s.connection.view ids, ∀ term ∈ r.tokens,
        term ∈ earlier.connection.view.vocabulary)) ∧
    (ids.length ≤ s.connection.limits.maxVariables → needsRecount (s.countedFrom + delta) delta = true →
      ∀ r ∈ chosenRows s.connection.view ids, ∀ term ∈ r.tokens,
        (s.update ids delta).2.connection.view.rarity.lookup term =
          some (Real.log ((s.countedFrom + delta + 1) / (s.connection.view.countNamedWith term + 1)) + 1) ∧
        ((∀ r ∈ s.connection.view.nodes, r.isSearchable = true → term ∈ r.tokens → r.id.isSome = true) →
          ((s.update ids delta).2.connection.view.rarity.lookup term = s.build.2.connection.view.rarity.lookup term ↔
            s.countedFrom = earlier.connection.view.searchedCount))) := by
  rw [Session.view_build hopen.1] at hterms hrarity
  have hkeys : (s.connection.view.rarity.map (·.1)).Nodup :=
    (hrarity.map _).nodup_iff.mpr (Session.nodup_keys_builtTables _)
  -- what the engine knows are the terms of the earlier table
  have hvocabulary : ∀ term, term ∈ (s.counting delta).rarity.map (·.1) ↔ term ∈ earlier.connection.view.vocabulary := by
    intro term
    rw [(((Session.counting_perm hkeys hknown delta).trans hrarity).map _).mem_iff, Session.builtTables,
      map_fst_rarityTable, mem_allTerms_searchable]
  refine ⟨?_, ?_⟩
  · simp only [Session.update_eq_ok_iff hopen.2, hvocabulary, mem_allTerms_documentsOf]
    grind
  intro hfew hrecount r hr term hterm
  obtain ⟨hnode, hsearch, -⟩ := Tables.mem_chosenRows.mp hr
  have hvalue : (s.update ids delta).2.connection.view.rarity.lookup term =
      some (rarity (s.countedFrom + delta) (s.connection.view.countNamedWith term)) := by
    have hlookup := Session.lookup_rarity_update hopen.2 hfew hrecount (mem_allTerms_documentsOf.mpr ⟨r, hr, hterm⟩)
    rw [hlookup, ← Nat.cast_add, Session.documentsOf, indexedCount_add_documentCount hdiff hkeyed.1 hkeyed.2 hterms]
  refine ⟨?_, ?_⟩
  · rw [hvalue, rarity_real]
    push_cast
    rfl
  intro hnamed
  have hpos : 0 < s.countedFrom + delta := by
    simp only [needsRecount, Bool.and_eq_true, decide_eq_true_eq] at hrecount
    exact hrecount.1
  rw [hvalue, Session.view_build hopen.2, lookup_builtTables ⟨r, hnode, hsearch, hterm⟩, Option.some.injEq,
    Tables.countNamedWith_eq_countWith hnamed, rarity_eq_inverseFrequency_iff hpos]
  omega

/-- One function of three is gone. A new engine takes this into account twice, and computes another rarity than building
the index anew gives; the engine that built the index computes the same. If the one function that is left of three has the
first term of all, a new engine fails. -/
theorem rarity_after_removal_ne_build :
    let earlier : Session ℝ := { connection := { committed := { nodes :=
      [functionRow (some "a") "fetch", functionRow (some "b") "load", functionRow (some "c") "drop"] } } }
    let c : Connection ℝ := { committed := { earlier.build.2.connection.view with nodes :=
      [functionRow (some "a") "fetch", functionRow (some "b") "load"] } }
    let new : Session ℝ := { connection := c }
    let builder : Session ℝ := { connection := c, engine := earlier.build.2.engine }
    let silent : Session ℝ := { connection := { committed := { nodes :=
      [functionRow (some "a") "x", functionRow (some "b") "y", functionRow (some "c") "z"] } } }
    let last : Session ℝ := { connection := { committed := { silent.build.2.connection.view with nodes :=
      [functionRow (some "a") "fetch"] } } }
    (new.update [some "a", some "c"] (-1)).1 = .ok () ∧
      (new.update [some "a", some "c"] (-1)).2.connection.view.rarity.lookup "fetch" ≠
        new.build.2.connection.view.rarity.lookup "fetch" ∧
      (builder.update [some "a", some "c"] (-1)).2.connection.view.rarity.lookup "fetch" =
        builder.build.2.connection.view.rarity.lookup "fetch" ∧
      (last.update [some "a", some "b", some "c"] (-2)).1 ≠ .ok () := by
  intro earlier c new builder silent last
  have hkeyed : earlier.connection.view.Keyed ∧ c.view.Keyed := by decide +kernel
  have hdiff : DifferOnlyIn [some "a", some "c"] earlier.connection.view.nodes c.view.nodes :=
    differOnlyIn_iff.mpr (by decide +kernel)
  have hdelta : (-1 : Int) = c.view.searchedCount - earlier.connection.view.searchedCount := by decide +kernel
  have hfetch : functionRow (some "a") "fetch" ∈ chosenRows c.view [some "a", some "c"] :=
    Tables.mem_chosenRows.mpr (by decide +kernel)
  have hterm : "fetch" ∈ (functionRow (some "a") "fetch").tokens := by decide +kernel
  have hnamed : ∀ r ∈ c.view.nodes, r.isSearchable = true → "fetch" ∈ r.tokens → r.id.isSome = true := by
    decide +kernel
  -- both engines are on the same connection
  have hupdate : ∀ e : Engine ℝ, e.rarity = [] ∨ e.rarity.Perm c.view.rarity → _ := fun e hknown =>
    rarity_update_eq_build_iff earlier { connection := c, engine := e } [some "a", some "c"] (-1) ⟨rfl, rfl⟩
      hkeyed hdiff (List.Perm.refl _) (List.Perm.refl _) hknown hdelta
  obtain ⟨hok, hnew⟩ := hupdate {} (Or.inl rfl)
  obtain ⟨-, hbuilder⟩ := hupdate earlier.build.2.engine (Or.inr (List.Perm.refl _))
  refine ⟨hok.mpr ⟨by decide, Or.inl (by decide +kernel)⟩, ?_, ?_, ?_⟩
  · rw [Ne, ((hnew (by decide) (by decide +kernel) _ hfetch "fetch" hterm).2 hnamed)]
    decide +kernel
  · apply ((hbuilder (by decide) (by decide +kernel) _ hfetch "fetch" hterm).2 hnamed).mpr
    decide +kernel
  · have hkeyed' : silent.connection.view.Keyed ∧ last.connection.view.Keyed := by decide +kernel
    have hdiff' : DifferOnlyIn [some "a", some "b", some "c"] silent.connection.view.nodes last.connection.view.nodes :=
      differOnlyIn_iff.mpr (by decide +kernel)
    have hdelta' : (-2 : Int) = last.connection.view.searchedCount - silent.connection.view.searchedCount := by
      decide +kernel
    have hunknown : ∀ r ∈ silent.connection.view.nodes, "fetch" ∉ r.tokens := by decide +kernel
    have hlast := (rarity_update_eq_build_iff silent last [some "a", some "b", some "c"] (-2) ⟨rfl, rfl⟩
      hkeyed' hdiff' (List.Perm.refl _) (List.Perm.refl _) (Or.inl rfl) hdelta').1
    rw [Ne, hlast]
    rintro ⟨-, hcount | hterms⟩
    · exact absurd hcount (by decide +kernel)
    · obtain ⟨r, hr, -, htoken⟩ := hterms _ (Tables.mem_chosenRows.mpr (by decide +kernel)) "fetch" hterm
      exact hunknown r hr htoken

end CodeAtlas
