import Mathlib
import CodeAtlas.Proofs.Project.Effect

/-!
# What a run gathers from its files

An incremental run that goes through some files of a project without colons has let each of them have its effect under
every key. It has gathered the digests of the touched files, the declarations that new files bring under free keys, and
the declarations that edited files had and have. All of this depends on the graph at the start and on the files, but
not on what comes before a file. So runs through the same files in different orders gather the same.

## Main definitions

* `IsSearchedIn`: a searched node of a file
* `Progress.Gathers`: what is true of a progress after some files

## Main results

* `Progress.Gathers.run`: what a whole run gathers
* `Progress.Gathers.perm`: runs through the same files in different orders gather the same
-/

namespace CodeAtlas

open Store

/-! ## Searched nodes of a file -/

/-- A searched node of a file. -/
def IsSearchedIn (path : String) (n? : Option Node) : Prop :=
  ∃ n, n? = some n ∧ n.filePath = some path ∧ n.isSearchable = true

theorem mem_searchedIn_iff {g : Graph} (h : g.keys.Nodup) {path : String} {k : NodeId} :
    k ∈ searchedIn g path ↔ IsSearchedIn path (g.bare? k) := by
  simp only [searchedIn, List.mem_map, List.mem_filter, Bool.and_eq_true, beq_iff_eq, Prod.exists]
  constructor
  · rintro ⟨j, n, ⟨hm, hpath, hsearch⟩, rfl⟩
    exact ⟨n.bare, Graph.bare?_eq_some_iff.mpr ⟨n, Graph.find?_of_mem h hm, rfl⟩, hpath, hsearch⟩
  · rintro ⟨n, hn, hpath, hsearch⟩
    obtain ⟨m, hm, rfl⟩ := Graph.bare?_eq_some_iff.mp hn
    exact ⟨k, m, ⟨Graph.mem_of_find? hm, hpath, hsearch⟩, rfl⟩

theorem nodup_searchedIn {g : Graph} (h : g.keys.Nodup) (path : String) : (searchedIn g path).Nodup :=
  (List.filter_sublist.map Prod.fst).nodup h

/-- Effects leave owned nodes only. -/
theorem Source.owned_of_effect {s : Source} {disk : Entry} {known : List (String × String)} {parts : List String}
    {k : NodeId} {n? : Option Node} (h : ∀ n, n? = some n → n.Owned k) {n : Node}
    (hn : s.effect disk known parts k n? = some n) : n.Owned k := by
  unfold effect at hn
  split at hn
  · exact h n hn
  split at hn
  · rcases Option.or_eq_some_iff.mp hn with hn | ⟨-, hn⟩
    · exact (currentNode?_eq_some hn).2.1
    · exact h n (Option.filter_eq_some_iff.mp hn).1
  · rcases Option.or_eq_some_iff.mp hn with hn | ⟨-, hn⟩
    · exact h n hn
    · -- directories have no path that their keys would have to belong to
      rw [newFolder?] at hn
      split at hn
      · obtain ⟨q, -, -, -, rfl, rfl⟩ := folderBelow?_eq_some hn
        exact ⟨rfl, fun path hpath => by cases hpath⟩
      · cases hn

/-- The key of an owned searched node belongs to its file. -/
theorem Colonless.map_fileOf_of_isSearchedIn {disk : Entry} (h : Colonless disk) {parts : List String}
    (hm : parts ∈ sourceFiles disk) {k : NodeId} {n? : Option Node} (howned : ∀ n, n? = some n → n.Owned k)
    (hs : IsSearchedIn (relativeText parts) n?) : k.map fileOf = some (relativeText parts) := by
  obtain ⟨n, hn, hpath, -⟩ := hs
  exact h.map_fileOf_of_owned hm (howned n hn) hpath

theorem Colonless.map_fileOf_of_effect {s : Source} {disk : Entry} (h : Colonless disk)
    {known : List (String × String)} {parts q : List String} (hm : parts ∈ sourceFiles disk) {k : NodeId}
    {n? : Option Node} (howned : ∀ n, n? = some n → n.Owned k)
    (hs : IsSearchedIn (relativeText parts) (s.effect disk known q k n?)) :
    k.map fileOf = some (relativeText parts) :=
  h.map_fileOf_of_isSearchedIn hm (fun _ hn => Source.owned_of_effect howned hn) hs

/-! ## The progress after some files -/

/-- The digest that a touched file brings. -/
def newDigest? (disk : Entry) (known : List (String × String)) (parts : List String) : Option (String × String) :=
  if IsTouched disk known parts then (fileDigest? disk parts).map fun digest => (relativeText parts, digest) else none

/-- What is true of a progress `p` after an incremental run has gone through the files `done`, starting from the graph
`g₀`. -/
structure Progress.Gathers (s : Source) (disk : Entry) (known : List (String × String)) (g₀ : Graph)
    (done : List (List String)) (p : Progress) : Prop where
  sources : ∀ parts ∈ done, parts ∈ sourceFiles disk
  owned : p.graph.Owned
  bare : ∀ k, p.graph.bare? k = s.effects disk known done k (g₀.bare? k)
  digests : p.digests = done.filterMap (newDigest? disk known)
  nodup : p.addedIds.Nodup
  /-- The declarations of new files under keys that were free. -/
  added : ∀ k, k ∈ p.addedIds ↔ ∃ parts ∈ done, IsNew known parts ∧ g₀.bare? k = none ∧
    IsSearchedIn (relativeText parts) (s.effect disk known parts k none)
  /-- The declarations of edited files, before and after. -/
  updated : ∀ k, k ∈ p.updatedIds ↔ ∃ parts ∈ done, (IsTouched disk known parts ∧ ¬ IsNew known parts) ∧
    (IsSearchedIn (relativeText parts) (g₀.bare? k) ∨
      IsSearchedIn (relativeText parts) (s.effect disk known parts k (g₀.bare? k)))

namespace Progress.Gathers

variable {s : Source} {disk : Entry} {known : List (String × String)} {g₀ : Graph} {p p' : Progress}
  {done : List (List String)} {parts : List String} {k : NodeId}

theorem refl (h : g₀.Owned) : Gathers s disk known g₀ [] { graph := g₀ } where
  sources := by simp
  owned := h
  bare := fun _ => rfl
  digests := rfl
  nodup := List.nodup_nil
  added := by simp
  updated := by simp

section Step

variable (G : Gathers s disk known g₀ done p) (h : Colonless disk) (hm : parts ∈ sourceFiles disk)

include G in
theorem effects_concat (k : NodeId) : s.effects disk known (done ++ [parts]) k (g₀.bare? k) =
    s.effect disk known parts k (p.graph.bare? k) := by
  rw [Source.effects, List.foldl_append, List.foldl_cons, List.foldl_nil, G.bare]
  rfl

include G hm in
theorem sources_concat : ∀ q ∈ done ++ [parts], q ∈ sourceFiles disk :=
  List.forall_mem_append.mpr ⟨G.sources, List.forall_mem_singleton.mpr hm⟩

include G h hm in
/-- The keys of a file are still as they were at the start. -/
theorem bare_of_own (hnot : parts ∉ done) (hk : k.map fileOf = some (relativeText parts)) :
    p.graph.bare? k = g₀.bare? k := by
  rw [G.bare, h.effects_of_other G.sources hm hnot hk]

include G hm in
/-- A file that is passed over. -/
theorem pass (hsame : ¬ IsTouched disk known parts) (hknown : ¬ IsNew known parts) :
    Gathers s disk known g₀ (done ++ [parts]) p where
  sources := G.sources_concat hm
  owned := G.owned
  bare k := by rw [G.effects_concat, Source.effect, if_pos hsame]
  digests := by simp [G.digests, newDigest?, hsame]
  nodup := G.nodup
  added k := by simp [G.added, hknown]
  updated k := by simp [G.updated, hsame]

variable (hg₀ : g₀.Owned) (hnot : parts ∉ done) {digest : String} (hdigest : fileDigest? disk parts = some digest)
  (ht : IsTouched disk known parts)

include G h hm hnot hdigest ht

/-- A new file. -/
theorem step_new (hnew : IsNew known parts) :
    Gathers s disk known g₀ (done ++ [parts])
      { p with
        graph := (p.graph.withFolders parts).withCurrent s disk parts
        digests := p.digests ++ [(relativeText parts, digest)]
        addedIds := p.addedIds ++
          (searchedIn ((p.graph.withFolders parts).withCurrent s disk parts) (relativeText parts)).filter
            fun id => !(p.graph.withFolders parts).contains id
        addedFiles := p.addedFiles + 1 } := by
  have hplain := (h.plain hm).2
  have hbase : (p.graph.withFolders parts).Owned := G.owned.withFolders
  have hfolders : ∀ k, (p.graph.withFolders parts).bare? k = (p.graph.bare? k).or (newFolder? known parts k) := by
    intro k
    rw [Graph.bare?_withFolders _ (isFileName_of_plain hplain), newFolder?, if_pos hnew]
  have hbare : ∀ k, ((p.graph.withFolders parts).withCurrent s disk parts).bare? k =
      s.effect disk known parts k (p.graph.bare? k) := h.bare?_withCurrent_eq hm ht hbase hfolders
  have howned : ((p.graph.withFolders parts).withCurrent s disk parts).Owned := hbase.withCurrent
  -- the keys of this file are as they were at the start, so which of them are free does not depend on the other files
  have hadded : ∀ k, k ∈ (searchedIn ((p.graph.withFolders parts).withCurrent s disk parts)
      (relativeText parts)).filter (fun id => !(p.graph.withFolders parts).contains id) ↔
        g₀.bare? k = none ∧ IsSearchedIn (relativeText parts) (s.effect disk known parts k none) := by
    intro k
    rw [List.mem_filter, mem_searchedIn_iff howned.distinct, hbare, Graph.contains_eq_isSome_bare?, hfolders,
      Bool.not_eq_true', Option.isSome_eq_false_iff, Option.isNone_iff_eq_none, Option.or_eq_none_iff]
    constructor
    · rintro ⟨hs, hnone, -⟩
      have hk := h.map_fileOf_of_effect hm (fun n hn => G.owned.of_bare? hn) hs
      rw [hnone] at hs
      exact ⟨(G.bare_of_own h hm hnot hk).symm.trans hnone, hs⟩
    · rintro ⟨hnone, hs⟩
      have hk := h.map_fileOf_of_effect hm (by simp) hs
      rw [G.bare_of_own h hm hnot hk, hnone]
      exact ⟨hs, rfl, h.newFolder?_eq_none hm hm hk⟩
  refine ⟨G.sources_concat hm, howned, fun k => ?_, ?_, ?_, fun k => ?_, fun k => ?_⟩
  · rw [hbare, G.effects_concat]
  · simp [G.digests, newDigest?, ht, hdigest]
  · refine G.nodup.append ((nodup_searchedIn howned.distinct _).filter _) fun k hold hcurrent => ?_
    -- a key belongs to one file only
    obtain ⟨q, hq, -, -, hs⟩ := (G.added k).mp hold
    have hkq := h.map_fileOf_of_effect (G.sources q hq) (by simp) hs
    have hk := h.map_fileOf_of_effect hm (by simp) ((hadded k).mp hcurrent).2
    rw [h.parts_inj (G.sources q hq) hm (Option.some.inj (hkq.symm.trans hk))] at hq
    exact hnot hq
  · rw [List.mem_append, G.added, hadded, Follows.exists_mem_append_singleton]
    simp [hnew]
  · rw [G.updated, Follows.exists_mem_append_singleton]
    simp [hnew]

include hg₀

/-- An edited file. -/
theorem step_edited (hknown : ¬ IsNew known parts) :
    Gathers s disk known g₀ (done ++ [parts])
      { p with
        graph := p.graph.withCurrent s disk parts
        digests := p.digests ++ [(relativeText parts, digest)]
        updatedIds := p.updatedIds ++ searchedIn p.graph (relativeText parts) ++
          searchedIn (p.graph.withCurrent s disk parts) (relativeText parts)
        updatedFiles := p.updatedFiles + 1 } := by
  have hbare : ∀ k, (p.graph.withCurrent s disk parts).bare? k =
      s.effect disk known parts k (p.graph.bare? k) := by
    refine h.bare?_withCurrent_eq hm ht G.owned fun k => ?_
    rw [newFolder?, if_neg hknown, Option.or_none]
  have howned : (p.graph.withCurrent s disk parts).Owned := G.owned.withCurrent
  refine ⟨G.sources_concat hm, howned, fun k => ?_, ?_, G.nodup, fun k => ?_, fun k => ?_⟩
  · rw [hbare, G.effects_concat]
  · simp [G.digests, newDigest?, ht, hdigest]
  · rw [G.added, Follows.exists_mem_append_singleton]
    simp [hknown]
  · rw [List.mem_append, List.mem_append, G.updated, mem_searchedIn_iff G.owned.distinct,
      mem_searchedIn_iff howned.distinct, hbare, Follows.exists_mem_append_singleton, or_assoc]
    refine or_congr_right ?_
    simp only [ht, hknown, not_false_eq_true, true_and]
    -- all searched nodes of the file stand under keys of the file, and no other file has touched these
    have hkey : ∀ {n? : Option Node}, (∀ n, n? = some n → n.Owned k) →
        IsSearchedIn (relativeText parts) n? ∨
          IsSearchedIn (relativeText parts) (s.effect disk known parts k n?) →
        k.map fileOf = some (relativeText parts) := by
      rintro n? howned' (hs | hs)
      · exact h.map_fileOf_of_isSearchedIn hm howned' hs
      · exact h.map_fileOf_of_effect hm howned' hs
    constructor
    · intro hs
      rwa [G.bare_of_own h hm hnot (hkey (fun n hn => G.owned.of_bare? hn) hs)] at hs
    · intro hs
      rwa [G.bare_of_own h hm hnot (hkey (fun n hn => hg₀.of_bare? hn) hs)]

omit hdigest ht in
/-- **One more file**, if it does not stop the run. -/
theorem step (hstep : indexFile s disk known p parts = .ok p') : Gathers s disk known g₀ (done ++ [parts]) p' := by
  obtain ⟨content, -, hdigest⟩ := fileDigest?_of_mem_sourceFiles (by decide) h.named hm
  rcases indexFile_cases hdigest hstep with ⟨hsame, hknown, rfl⟩ | ⟨ht, hnew, rfl⟩ | ⟨ht, hknown, rfl⟩
  · exact G.pass hm hsame hknown
  · exact G.step_new h hm hnot hdigest ht hnew
  · exact G.step_edited h hm hg₀ hnot hdigest ht hknown

end Step

/-! ## A whole run -/

/-- **What a whole run gathers**, if nothing stops it. -/
theorem run (G : Gathers s disk known g₀ done p) (h : Colonless disk) (hg₀ : g₀.Owned) {files : List (List String)}
    (hfiles : ∀ parts ∈ files, parts ∈ sourceFiles disk) (hnodup : (done ++ files).Nodup)
    (hrun : files.foldlM (indexFile s disk known) p = .ok p') : Gathers s disk known g₀ (done ++ files) p' := by
  -- one file after the other goes from those that are left to those that are done
  induction files generalizing done p with
  | nil =>
    obtain rfl : p = p' := Except.ok.inj hrun
    rwa [List.append_nil]
  | cons parts rest ih =>
    obtain ⟨hm, hrest⟩ := List.forall_mem_cons.mp hfiles
    have hnot : parts ∉ done := fun hmem => List.disjoint_of_nodup_append hnodup hmem List.mem_cons_self
    rw [List.append_cons] at hnodup ⊢
    obtain ⟨q, hstep, hrun⟩ := exists_of_foldlM_cons hrun
    exact ih (G.step h hm hg₀ hnot hstep) hrest hnodup hrun

/-- **Runs through the same files in different orders gather the same.** -/
theorem perm {files files' : List (List String)} (G : Gathers s disk known g₀ files p)
    (G' : Gathers s disk known g₀ files' p') (h : Colonless disk) (hperm : files.Perm files') :
    (∀ k, p.graph.bare? k = p'.graph.bare? k) ∧ p.digests.Perm p'.digests ∧ p.addedIds.Perm p'.addedIds ∧
      ∀ k, k ∈ p.updatedIds ↔ k ∈ p'.updatedIds := by
  refine ⟨fun k => ?_, ?_, ?_, fun k => ?_⟩
  · rw [G.bare, G'.bare, h.effects_perm hperm G.sources]
  · rw [G.digests, G'.digests]
    exact hperm.filterMap _
  · rw [List.perm_ext_iff_of_nodup G.nodup G'.nodup]
    intro k
    rw [G.added, G'.added]
    simp only [hperm.mem_iff]
  · rw [G.updated, G'.updated]
    simp only [hperm.mem_iff]

end Progress.Gathers

end CodeAtlas
