import Mathlib
import CodeAtlas.Proofs.Project.Written
import CodeAtlas.Proofs.Search.Order

/-!
# The order of an incremental run

An incremental run meets the source files of a project in no particular order, and so it does with the declarations
that it brings up to date in the search index. Any two orders in which the run ends well leave the same rows in all
tables, if the identifiers of rows with a path belong to the path. This is so in every database that runs leave. In some
orders the run may fail all the same, if the directory above an edited file is missing at its turn.

## Main definitions

* `Tables.SameRows`: tables with the same rows

## Main results

* `Progress.Gathers.sameRows_completed`: what runs in two orders leave
* `indexChangesIn_sameRows`: all orders in which a run ends well leave the same rows
* `not_sameRows_of_marked_folder`: on a database that no run has left, the rows can depend on the order
-/

namespace CodeAtlas

open Store Search

/-- Tables with the same rows, in any order. -/
structure Store.Tables.SameRows {R : Type} (t t' : Tables R) : Prop where
  nodes : t.nodes.Perm t'.nodes
  relations : t.relations.Perm t'.relations
  files : t.files.Perm t'.files
  terms : t.terms.Perm t'.terms
  rarity : t.rarity.Perm t'.rarity

variable {R : Type} {s : Source} {disk : Entry} {t : Tables R} {files files' : List (List String)} {p p' : Progress}

theorem goneFiles_perm (hperm : files.Perm files') : goneFiles t files = goneFiles t files' := by
  have hsame : (fun path => !(files.map relativeText).contains path) =
      fun path => !(files'.map relativeText).contains path := by
    funext path
    rw [(hperm.map _).contains_eq]
  rw [goneFiles, goneFiles, hsame]

/-- The files that are recorded after the digests of different files were put. -/
theorem Store.Tables.files_putDigests {digests : List (String × String)} (h : (digests.map (·.1)).Nodup)
    (t : Tables R) : (t.putDigests digests).files =
      (t.files.filter fun entry => !(digests.map (·.1)).contains entry.1) ++ digests := by
  induction digests generalizing t with
  | nil => simp [putDigests]
  | cons entry rest ih =>
    obtain ⟨path, digest⟩ := entry
    rw [List.map_cons, List.nodup_cons] at h
    -- the path does not come again, so this entry stays
    have hkept : [(path, digest)].filter (fun entry => !(rest.map (·.1)).contains entry.1) = [(path, digest)] := by
      simpa using h.1
    rw [putDigests, List.foldl_cons]
    refine (ih h.2 _).trans ?_
    change ((putLast path digest t.files).filter fun entry => !(rest.map (·.1)).contains entry.1) ++ rest = _
    rw [putLast, List.filter_append, hkept, List.filter_filter, List.append_assoc]
    congr 1
    refine List.filter_congr fun entry _ => ?_
    simp [bne, Bool.and_comm]

theorem path_of_newDigest? {known : List (String × String)} {parts : List String} {entry : String × String}
    (h : newDigest? disk known parts = some entry) : entry.1 = relativeText parts := by
  unfold newDigest? at h
  split at h
  · obtain ⟨digest, -, rfl⟩ := Option.map_eq_some_iff.mp h
    rfl
  · cases h

namespace Progress.Gathers

/-- The touched files have different paths. -/
theorem nodup_digests {known : List (String × String)} {g₀ : Graph} (G : p.Gathers s disk known g₀ files)
    (h : Colonless disk) (hnodup : files.Nodup) : (p.digests.map (·.1)).Nodup := by
  rw [G.digests, List.Nodup, List.pairwise_map, List.pairwise_filterMap]
  refine hnodup.imp_of_mem fun {a b} ha hb hne d hd d' hd' heq => hne ?_
  refine h.parts_inj (G.sources a ha) (G.sources b hb) ?_
  rw [← path_of_newDigest? hd, ← path_of_newDigest? hd', heq]

variable (G : p.Gathers s disk t.files t.graph files) (G' : p'.Gathers s disk t.files t.graph files')
  (h : Colonless disk) (hperm : files.Perm files')

include G G' h hperm

theorem removedIds_perm : (p.removedIds t files).Perm (p'.removedIds t files') := by
  rw [removedIds, removedIds, goneFiles_perm hperm]
  refine List.Perm.flatMap_left _ fun path _ => ?_
  rw [List.perm_ext_iff_of_nodup (nodup_searchedIn G.owned.distinct _) (nodup_searchedIn G'.owned.distinct _)]
  intro k
  rw [mem_searchedIn_iff G.owned.distinct, mem_searchedIn_iff G'.owned.distinct, (G.perm G' h hperm).1]

theorem delta_eq : p.delta t files = p'.delta t files' := by
  rw [delta, delta, (G.perm G' h hperm).2.2.1.length_eq, (G.removedIds_perm G' h hperm).length_eq]

/-- The declarations that are brought up to date, in two orders. -/
theorem changed_perm {arrange arrange' : List NodeId → List NodeId} (ha : ∀ ids, (arrange ids).Perm ids)
    (ha' : ∀ ids, (arrange' ids).Perm ids) :
    (arrange (p.addedIds ++ p.updatedIds).eraseDups).Perm (arrange' (p'.addedIds ++ p'.updatedIds).eraseDups) := by
  obtain ⟨-, -, hadded, hupdated⟩ := G.perm G' h hperm
  refine (ha _).trans (List.Perm.trans ?_ (ha' _).symm)
  refine (List.perm_ext_iff_of_nodup (nodup_eraseDups _) (nodup_eraseDups _)).mpr fun k => ?_
  rw [List.mem_eraseDups, List.mem_eraseDups, List.mem_append, List.mem_append, hadded.mem_iff, hupdated]

theorem saved_nodes_perm : (p.saved t (goneFiles t files)).nodes.Perm (p'.saved t (goneFiles t files')).nodes := by
  rw [Follows.saved_eq, Follows.saved_eq p']
  exact G.owned.rows_perm G'.owned (G.perm G' h hperm).1

theorem saved_files_perm (hnodup : files.Nodup) :
    (p.saved t (goneFiles t files)).files.Perm (p'.saved t (goneFiles t files')).files := by
  have hdigests := (G.perm G' h hperm).2.1
  rw [saved, saved, Tables.files_putDigests (G.nodup_digests h hnodup),
    Tables.files_putDigests (G'.nodup_digests h (hperm.nodup_iff.mp hnodup)), goneFiles_perm hperm]
  refine List.Perm.append ?_ hdigests
  refine List.Perm.of_eq (List.filter_congr fun entry _ => ?_)
  rw [(hdigests.map _).contains_eq]

variable [Scalar R]

/-- **Runs in two orders that end well leave the same rows.** -/
theorem sameRows_completed (hnodup : files.Nodup) {changed changed' : List NodeId} (hchanged : changed.Perm changed') :
    (p.completed t files changed).SameRows (p'.completed t files' changed') := by
  have hnodes := G.saved_nodes_perm G' h hperm
  have hchosen := chosenRows_perm hnodes hchanged
  have hdocuments : (p.documents t files changed).Perm (p'.documents t files' changed') := hchosen.map _
  -- the rows of a saved graph have different identifiers, so no document takes the place of another
  have hids : ((p.documents t files changed).map (·.id)).Nodup := by
    have hrows : ((p.saved t (goneFiles t files)).nodes.map (·.id)).Nodup := by
      rw [Follows.saved_eq]
      exact G.owned.nodup_map_id_rows
    rw [documents, List.map_map]
    exact nodup_map_id_chosenRows hrows changed
  have htotal : p.total t files = p'.total t files' := by
    rw [total, total, (Tables.searchable_perm hnodes).length_eq, G.delta_eq G' h hperm]
  refine ⟨hnodes, ?_, G.saved_files_perm G' h hperm hnodup, termRows_perm hids hdocuments, ?_⟩
  · rw [completed, completed, Follows.saved_eq, Follows.saved_eq p']
  · rw [completed, completed, htotal, G.delta_eq G' h hperm]
    exact Session.freshRarities_perm hdocuments _ _

end Progress.Gathers

variable [Scalar R]

/-- An incremental run that ends well leaves what it has gathered. -/
theorem exists_completed_of_ok {arrange : List NodeId → List NodeId} (ht : t.Owned) (h : Colonless disk)
    (hfiles : files.Perm (sourceFiles disk)) {changes : Changes}
    (hok : (indexChangesIn arrange s disk files t).1 = .ok changes) :
    ∃ p : Progress, p.Gathers s disk t.files t.graph files ∧
      (indexChangesIn arrange s disk files t).2 =
        p.completed t files (arrange (p.addedIds ++ p.updatedIds).eraseDups) := by
  rcases indexChangesIn_cases arrange s ht h hfiles with
    ⟨f, -, heq | heq⟩ | ⟨p, G, -, ⟨changes', heq⟩ | ⟨f, heq, -⟩⟩
  · rw [heq] at hok
    cases hok
  · rw [heq] at hok
    cases hok
  · exact ⟨p, G, by rw [heq]⟩
  · rw [heq] at hok
    cases hok

/-- **All orders in which an incremental run ends well leave the same rows**, on every database that runs can leave,
and on any other one in which the identifiers of rows belong to their paths. -/
theorem indexChangesIn_sameRows :
    (∀ t : Tables R, Written (fun _ => True) (some t) → t.Owned) ∧
      ∀ (t : Tables R) (s : Source) (disk : Entry), t.Owned → Colonless disk →
        ∀ (files files' : List (List String)) (arrange arrange' : List NodeId → List NodeId),
          files.Perm (sourceFiles disk) → files'.Perm (sourceFiles disk) →
          (∀ ids, (arrange ids).Perm ids) → (∀ ids, (arrange' ids).Perm ids) →
          ∀ changes changes', (indexChangesIn arrange s disk files t).1 = .ok changes →
            (indexChangesIn arrange' s disk files' t).1 = .ok changes' →
            (indexChangesIn arrange s disk files t).2.SameRows (indexChangesIn arrange' s disk files' t).2 := by
  refine ⟨fun t H => H.lawful.owned, ?_⟩
  intro t s disk ht h files files' arrange arrange' hfiles hfiles' ha ha' changes changes' hok hok'
  obtain ⟨p, G, heq⟩ := exists_completed_of_ok ht h hfiles hok
  obtain ⟨p', G', heq'⟩ := exists_completed_of_ok ht h hfiles' hok'
  have hperm : files.Perm files' := hfiles.trans hfiles'.symm
  rw [heq, heq']
  exact G.sameRows_completed G' h hperm (hfiles.nodup_iff.mpr h.nodup) (G.changed_perm G' h hperm ha ha')

/-- A file is edited and a directory with a file is new. With all orders reversed the rows come in another order, and
they are the same. -/
theorem sameRows_reversed :
    let disk₁ := Sample.folder [("a.py", Sample.file "fetch")]
    let disk₂ := Sample.folder [("a.py", Sample.file "b c d e f g"),
      ("lib", Sample.folder [("c.py", Sample.file "load b")])]
    let t : Tables Float := (indexAll Sample.words disk₁ {}).2
    let result := indexChangesIn id Sample.words disk₂ (sourceFiles disk₂) t
    let reversed := indexChangesIn List.reverse Sample.words disk₂ (sourceFiles disk₂).reverse t
    t.Owned ∧ Colonless disk₂ ∧ result.2.nodes ≠ reversed.2.nodes ∧ result.2.SameRows reversed.2 := by
  intro disk₁ disk₂ t result reversed
  have howned : t.Owned := indexChangesIn_sameRows.1 t (.all Sample.words .start trivial)
  have hcolonless : Colonless disk₂ := by decide +kernel
  have hruns : Sample.endsWell result.1 = true ∧ Sample.endsWell reversed.1 = true ∧
      result.2.nodes ≠ reversed.2.nodes := by decide +kernel
  obtain ⟨changes, hok⟩ := Sample.exists_of_endsWell hruns.1
  obtain ⟨changes', hok'⟩ := Sample.exists_of_endsWell hruns.2.1
  refine ⟨howned, hcolonless, hruns.2.2, ?_⟩
  exact indexChangesIn_sameRows.2 t Sample.words disk₂ howned hcolonless (sourceFiles disk₂)
    (sourceFiles disk₂).reverse id List.reverse (List.Perm.refl _) (List.reverse_perm _) (fun _ => List.Perm.refl _)
    List.reverse_perm changes changes' hok hok'

/-- A directory that some other program has marked with the path of a file is lost if that file is met last, and put
again if the file is met first. So the rows depend on the order. -/
theorem not_sameRows_of_marked_folder :
    let row := fun (id kind : String) (path : Option String) =>
      (⟨some id, none, id, kind, path, none, none, none, none, none, none, none⟩ : NodeRow)
    let t : Tables Float := { nodes := [row "." "dir" none, row "lib" "dir" (some "b.py")], files := [("b.py", "")] }
    let disk := Sample.folder [("b.py", Sample.file ""), ("lib", Sample.folder [("c.py", Sample.file "")])]
    let result := indexChangesIn id Sample.source disk (sourceFiles disk) t
    let reversed := indexChangesIn id Sample.source disk (sourceFiles disk).reverse t
    Colonless disk ∧ Sample.endsWell result.1 = true ∧ Sample.endsWell reversed.1 = true ∧
      ¬ result.2.SameRows reversed.2 := by
  intro row t disk result reversed
  have hcolonless : Colonless disk := by decide +kernel
  have hruns : Sample.endsWell result.1 = true ∧ Sample.endsWell reversed.1 = true ∧
      ¬ result.2.nodes.Perm reversed.2.nodes := by decide +kernel
  exact ⟨hcolonless, hruns.1, hruns.2.1, fun hsame => hruns.2.2 hsame.nodes⟩

end CodeAtlas
