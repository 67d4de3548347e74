import Mathlib
import CodeAtlas.Proofs.Project.Order
import CodeAtlas.Proofs.Search.Exact

/-!
# The search index over histories

An incremental run counts the searched rows of the saved graph, in which the declarations of files that are gone still
stand, takes away the declarations of these files and adds the new ones. The rows that it puts into the search index
have paths of files that are there, so they are none of those that it takes away. Therefore the number that it ends up
with is never less than the number of rows that it puts into the index, and all logarithms are taken of numbers that
are at least one.

So over any history of runs, no logarithm is undefined, all rarities are at least one, and after a run that ends well
every term of the search index belongs to a searched row with the relative frequency that it has in the text of the row.

## Main results

* `Progress.Gathers.length_documents_add_removedIds_le`: the rows that are put into the index and those that are taken
  away are different rows
* `Progress.Gathers.length_documents_le_total`: how many rows an incremental run counts
* `searchSound_of_written`: the search index over histories
-/

namespace CodeAtlas

open Store Search

namespace Progress.Gathers

section Counting

variable {R : Type} {s : Source} {disk : Entry} {t : Tables R} {files : List (List String)} {p : Progress}
  (G : p.Gathers s disk t.files t.graph files) (h : Colonless disk) (ht : t.Lawful) (hnodup : files.Nodup)

include G h ht hnodup

/-- The declarations that are brought up to date belong to files that are there. -/
theorem filePath_of_mem_changed {k : NodeId} (hk : k ∈ p.addedIds ∨ k ∈ p.updatedIds) {n : Node}
    (hn : p.graph.bare? k = some n) : ∃ parts ∈ files, n.filePath = some (relativeText parts) := by
  have howned : ∀ m, t.graph.bare? k = some m → m.Owned k := fun m hm => ht.owned.graph.of_bare? hm
  -- a declaration of a file stands under a key of the file, which only this file has an effect on
  have hleft : ∀ {parts}, parts ∈ files → k.map fileOf = some (relativeText parts) →
      s.effect disk t.files parts k (t.graph.bare? k) = some n := by
    intro parts hm hkey
    rwa [← h.effects_of_mem hnodup G.sources hm hkey, ← G.bare]
  rcases hk with hk | hk
  · obtain ⟨parts, hm, -, hfree, hs⟩ := (G.added k).mp hk
    have heffect := hleft hm (h.map_fileOf_of_effect (G.sources parts hm) (by simp) hs)
    obtain ⟨m, hm', hpath, -⟩ := hs
    rw [hfree, hm'] at heffect
    exact ⟨parts, hm, Option.some.inj heffect ▸ hpath⟩
  · obtain ⟨parts, hm, ⟨htouched, -⟩, hs | hs⟩ := (G.updated k).mp hk
    · -- the declaration was there before, so what stands under its key now is put by the file
      have hkey := h.map_fileOf_of_isSearchedIn (G.sources parts hm) howned hs
      have heffect := hleft hm hkey
      obtain ⟨m, hm', hpath, -⟩ := hs
      have hremoved : (t.graph.bare? k).filter (isForeign (relativeText parts) k) = none := by
        rw [hm', Option.filter_some, if_neg (by simp [isForeign, hpath])]
      rw [Source.effect, if_neg (not_not.mpr htouched), if_pos hkey, hremoved, Option.or_none] at heffect
      exact ⟨parts, hm, (Source.currentNode?_eq_some heffect).2.2⟩
    · have heffect := hleft hm (h.map_fileOf_of_effect (G.sources parts hm) howned hs)
      obtain ⟨m, hm', hpath, -⟩ := hs
      rw [hm'] at heffect
      exact ⟨parts, hm, Option.some.inj heffect ▸ hpath⟩

omit h hnodup in
/-- No declaration is taken away twice. -/
theorem nodup_removedIds : (p.removedIds t files).Nodup := by
  have hgone : (goneFiles t files).Nodup := ht.distinct.filter _
  refine List.nodup_flatMap.mpr ⟨fun path _ => nodup_searchedIn G.owned.distinct path, ?_⟩
  refine hgone.imp fun {path path'} hne k hk hk' => hne ?_
  obtain ⟨n, hn, hpath, -⟩ := (mem_searchedIn_iff G.owned.distinct).mp hk
  obtain ⟨n', hn', hpath', -⟩ := (mem_searchedIn_iff G.owned.distinct).mp hk'
  obtain rfl : n = n' := Option.some.inj (hn.symm.trans hn')
  exact Option.some.inj (hpath.symm.trans hpath')

omit h ht hnodup in
/-- The searched nodes of a graph that was stored have searched rows. -/
theorem exists_row_of_isSearchedIn (hstored : storeRows [] (p.graph.nodes.map (·.2)) = .ok p.graph.rows) {k : NodeId}
    {path : String} (hs : IsSearchedIn path (p.graph.bare? k)) :
    ∃ r ∈ p.graph.rows, r.id = k ∧ r.filePath = some path ∧ r.isSearchable = true := by
  obtain ⟨n, hn, hpath, hsearch⟩ := hs
  have hid : n.id = k := (G.owned.of_bare? hn).1
  obtain ⟨m, hm, rfl⟩ := Graph.bare?_eq_some_iff.mp hn
  have hmem : NodeRow.ofNode? m ∈ (p.graph.nodes.map (·.2)).map NodeRow.ofNode? :=
    List.mem_map_of_mem (List.mem_map_of_mem (Graph.mem_of_find? hm))
  rw [storeRows_eq_ok hstored] at hmem
  obtain ⟨r, hr, hok⟩ := List.mem_map.mp hmem
  refine ⟨r, hr, (NodeRow.id_of_ofNode? hok.symm).trans hid, (NodeRow.filePath_of_ofNode? hok.symm).trans hpath, ?_⟩
  exact (NodeRow.isSearchable_of_ofNode? hok.symm).symm.trans hsearch

/-- **The rows that are put into the index and those that are taken away** are different searched rows. -/
theorem length_documents_add_removedIds_le (hstored : storeRows [] (p.graph.nodes.map (·.2)) = .ok p.graph.rows)
    {changed : List NodeId} (hchanged : ∀ k ∈ changed, k ∈ p.addedIds ∨ k ∈ p.updatedIds) :
    (p.documents t files changed).length + (p.removedIds t files).length ≤
      (p.saved t (goneFiles t files)).searchable.length := by
  set rows := (p.saved t (goneFiles t files)).searchable with hrows
  have hnodes : (p.saved t (goneFiles t files)).nodes = p.graph.rows := by rw [Follows.saved_eq]
  let isGone (r : NodeRow) : Bool := r.filePath.any (goneFiles t files).contains
  have hremoved : (p.removedIds t files).length ≤ rows.countP isGone := by
    -- each of them is the identifier of a searched row
    have hsubset : p.removedIds t files ⊆ (rows.filter isGone).map (·.id) := by
      intro k hk
      obtain ⟨path, hgone, hk⟩ := List.mem_flatMap.mp hk
      obtain ⟨r, hr, hid, hpath, hsearch⟩ :=
        G.exists_row_of_isSearchedIn hstored ((mem_searchedIn_iff G.owned.distinct).mp hk)
      refine List.mem_map.mpr ⟨r, List.mem_filter.mpr ⟨?_, by simpa [isGone, hpath] using hgone⟩, hid⟩
      exact Tables.mem_searchable.mpr ⟨hnodes ▸ hr, hsearch⟩
    have hle := (List.subperm_of_subset (G.nodup_removedIds ht) hsubset).length_le
    rwa [List.length_map, ← List.countP_eq_length_filter] at hle
  have hchosen : (p.documents t files changed).length ≤ rows.countP fun r => !isGone r := by
    rw [documents, List.length_map, (chosenRows_perm_filter _ _).length_eq, ← List.countP_eq_length_filter]
    refine List.countP_mono_left fun r hr hid => ?_
    simp only [Bool.and_eq_true, List.contains_iff_mem] at hid
    -- a row that is put into the index has the path of a file that is there
    obtain ⟨n, hn, hok⟩ := G.owned.exists_of_mem_rows (hnodes ▸ (Tables.mem_searchable.mp hr).1)
    obtain ⟨parts, hm, hpath⟩ := G.filePath_of_mem_changed h ht hnodup (hchanged _ hid.2) hn
    have hthere : relativeText parts ∉ goneFiles t files := fun hgone => (mem_goneFiles.mp hgone).2 parts hm rfl
    simpa [isGone, NodeRow.filePath_of_ofNode? hok, hpath] using hthere
  have hsplit := List.length_eq_countP_add_countP isGone (l := rows)
  simp only [Bool.not_eq_true, Bool.decide_eq_false] at hsplit
  omega

/-- **How many rows an incremental run counts**: at least those that it puts into the index. -/
theorem length_documents_le_total (hstored : storeRows [] (p.graph.nodes.map (·.2)) = .ok p.graph.rows)
    {changed : List NodeId} (hchanged : ∀ k ∈ changed, k ∈ p.addedIds ∨ k ∈ p.updatedIds) :
    ((p.documents t files changed).length : Int) ≤ p.total t files := by
  have hle := G.length_documents_add_removedIds_le h ht hnodup hstored hchanged
  unfold total delta
  omega

end Counting

end Progress.Gathers

/-! ## Rarities -/

theorem documentCount_le_length (ds : List Document) (term : String) : documentCount ds term ≤ ds.length :=
  List.countP_le_length

/-- The rarities of all documents. -/
theorem atLeastOne_of_mem_rarityTable {ds : List Document} {entry : String × Exact} (h : entry ∈ rarityTable ds) :
    entry.2.AtLeastOne := by
  obtain ⟨term, -, rfl⟩ := List.mem_map.mp h
  refine Exact.atLeastOne_rarity (by omega) ?_
  exact_mod_cast documentCount_le_length ds term

/-- The rarities that documents bring, if there are not fewer nodes than documents. -/
theorem atLeastOne_of_mem_freshRarities {ds : List Document} {total delta : Int} (hle : (ds.length : Int) ≤ total)
    {entry : String × Exact} (h : entry ∈ Session.freshRarities ds total delta) : entry.2.AtLeastOne := by
  obtain ⟨term, hterm, rfl⟩ := List.mem_map.mp h
  -- there is a term, so there is a document
  obtain ⟨d, hd, -⟩ := mem_allTerms.mp hterm
  have hpos := List.length_pos_of_mem hd
  have hcount := documentCount_le_length ds term
  split
  · exact Exact.atLeastOne_rarity (by omega) (by omega)
  · -- a term that is new counts as found once
    exact Exact.atLeastOne_rarity (by omega) (by omega)

/-! ## Runs -/

section Runs

variable {t : Tables Exact} {s : Source} {disk : Entry} {files : List (List String)}
  {arrange : List NodeId → List NodeId}

/-- After a full run that ends well, the search index is sound. -/
theorem searchSound_indexAll {stats : Stats} (hok : (indexAll s disk t).1 = .ok stats) :
    (indexAll s disk t).2.SearchSound := by
  rcases indexAll_cases s disk t with ⟨stats', -, heq⟩ | ⟨f, -, heq⟩
  · rw [heq]
    exact Tables.searchSound_builtTables _
  · rw [heq] at hok
    cases hok

theorem indexAll_ne_logarithmDomain : (indexAll s disk t).1 ≠ .error .logarithmDomain := by
  intro herror
  rcases indexAll_cases s disk t with ⟨stats, -, heq⟩ | ⟨f, hf, heq⟩
  · rw [heq] at herror
    cases herror
  · rw [heq] at herror
    exact hf (Except.error.inj herror)

/-- Full runs keep all rarities at least one. -/
theorem atLeastOne_indexAll (hrarity : ∀ entry ∈ t.rarity, entry.2.AtLeastOne) :
    ∀ entry ∈ (indexAll s disk t).2.rarity, entry.2.AtLeastOne := by
  rcases indexAll_cases s disk t with ⟨stats, -, heq⟩ | ⟨f, -, heq⟩
  · rw [heq]
    exact fun entry hentry => atLeastOne_of_mem_rarityTable hentry
  · rwa [heq]

variable (ht : t.Lawful) (h : Colonless disk) (hfiles : files.Perm (sourceFiles disk))
  (harrange : ∀ ids, (arrange ids).Perm ids)

include ht h hfiles harrange

/-- What an incremental run has gathered, it counts well. -/
theorem length_documents_arranged_le {p : Progress} (G : p.Gathers s disk t.files t.graph files)
    (hstored : storeRows [] (p.graph.nodes.map (·.2)) = .ok p.graph.rows) :
    ((p.documents t files (arrange (p.addedIds ++ p.updatedIds).eraseDups)).length : Int) ≤ p.total t files := by
  refine G.length_documents_le_total h ht (hfiles.nodup_iff.mpr h.nodup) hstored fun k hk => ?_
  rwa [(harrange _).mem_iff, List.mem_eraseDups, List.mem_append] at hk

theorem indexChangesIn_ne_logarithmDomain :
    (indexChangesIn arrange s disk files t).1 ≠ .error .logarithmDomain := by
  intro herror
  rcases indexChangesIn_cases arrange s ht.owned h hfiles with
    ⟨f, hf, heq | heq⟩ | ⟨p, G, hstored, ⟨changes, heq⟩ | ⟨f, heq, hf⟩⟩
  · rw [heq] at herror
    exact hf (Except.error.inj herror)
  · rw [heq] at herror
    exact hf (Except.error.inj herror)
  · rw [heq] at herror
    cases herror
  · rw [heq] at herror
    obtain rfl : f = .logarithmDomain := Except.error.inj herror
    rcases hf with hf | ⟨-, hneg⟩
    · cases hf
    · have hle := length_documents_arranged_le ht h hfiles harrange G hstored
      omega

omit harrange in
/-- After an incremental run that ends well, the search index is sound. -/
theorem searchSound_indexChangesIn {changes : Changes}
    (hok : (indexChangesIn arrange s disk files t).1 = .ok changes) :
    (indexChangesIn arrange s disk files t).2.SearchSound := by
  obtain ⟨p, G, heq⟩ := exists_completed_of_ok ht.owned h hfiles hok
  rw [heq]
  refine Tables.searchSound_of_rows _ (fun r hr => ?_) rfl (Session.map_fst_freshRarities _ _ _)
  exact ⟨(Tables.mem_chosenRows.mp hr).1, (Tables.mem_chosenRows.mp hr).2.1⟩

/-- Incremental runs keep all rarities at least one. -/
theorem atLeastOne_indexChangesIn (hrarity : ∀ entry ∈ t.rarity, entry.2.AtLeastOne) :
    ∀ entry ∈ (indexChangesIn arrange s disk files t).2.rarity, entry.2.AtLeastOne := by
  rcases indexChangesIn_cases arrange s ht.owned h hfiles with
    ⟨f, -, heq | heq⟩ | ⟨p, G, hstored, ⟨changes, heq⟩ | ⟨f, heq, -⟩⟩
  · rwa [heq]
  · rw [heq]
    exact hrarity
  · rw [heq]
    have hle := length_documents_arranged_le ht h hfiles harrange G hstored
    exact fun entry hentry => atLeastOne_of_mem_freshRarities hle hentry
  · rw [heq, Progress.Follows.saved_eq]
    exact fun entry hentry => by cases hentry

end Runs

/-! ## Histories -/

/-- All rarities of all databases are at least one. -/
theorem Written.atLeastOne {t? : Option (Tables Exact)} (H : Written Colonless t?) :
    ∀ entry ∈ (t?.getD {}).rarity, entry.2.AtLeastOne := by
  induction H with
  | start => exact fun entry hentry => by cases hentry
  | all s _ _ ih => exact atLeastOne_indexAll ih
  | changes s H h hfiles harrange ih => exact atLeastOne_indexChangesIn H.lawful h hfiles harrange ih

/-- **The search index over histories** of full and incremental runs on projects without colons, in exact arithmetic.
All rarities of all databases are at least one, and so are all numbers whose logarithms were taken to compute them. The
next run never fails because a logarithm is undefined, and if it ends well, every term of the search index belongs to a
searched row, occurs in the text of the row with its weight as relative frequency, and has a rarity. -/
theorem searchSound_of_written {t? : Option (Tables Exact)} (H : Written Colonless t?) :
    (∀ entry ∈ (t?.getD {}).rarity, (∀ y ∈ entry.2.arguments, 1 ≤ y) ∧ 1 ≤ entry.2.value) ∧
      (∀ s disk, (indexAll s disk (t?.getD {})).1 ≠ .error .logarithmDomain ∧
        ∀ stats, (indexAll s disk (t?.getD {})).1 = .ok stats → (indexAll s disk (t?.getD {})).2.SearchSound) ∧
      ∀ t ∈ t?, ∀ s disk files arrange, Colonless disk → files.Perm (sourceFiles disk) →
        (∀ ids, (arrange ids).Perm ids) →
        (indexChangesIn arrange s disk files t).1 ≠ .error .logarithmDomain ∧
          ∀ changes, (indexChangesIn arrange s disk files t).1 = .ok changes →
            (indexChangesIn arrange s disk files t).2.SearchSound := by
  refine ⟨H.atLeastOne, fun s disk => ⟨indexAll_ne_logarithmDomain, fun stats => searchSound_indexAll⟩, ?_⟩
  rintro t rfl s disk files arrange h hfiles harrange
  have ht : t.Lawful := H.lawful
  exact ⟨indexChangesIn_ne_logarithmDomain ht h hfiles harrange,
    fun changes => searchSound_indexChangesIn ht h hfiles⟩

/-- A file is edited and another one is gone: two declarations of three are taken away, and the one that is left is put
into the index. -/
theorem searchSound_after_removal :
    let disk₁ := Sample.folder [("a.py", Sample.file "fetch"), ("b.py", Sample.file "load save")]
    let disk₂ := Sample.folder [("a.py", Sample.file "keep")]
    let t : Tables Exact := (indexAll Sample.words disk₁ {}).2
    let result := indexChangesIn id Sample.words disk₂ (sourceFiles disk₂) t
    Written Colonless (some t) ∧ Colonless disk₂ ∧ Sample.endsWell result.1 = true ∧
      result.2.terms.isEmpty = false ∧ result.2.SearchSound := by
  intro disk₁ disk₂ t result
  have hcolonless : Colonless disk₁ ∧ Colonless disk₂ := by decide +kernel
  have H : Written Colonless (some t) := .all Sample.words .start hcolonless.1
  have hrun : Sample.endsWell result.1 = true ∧ result.2.terms.isEmpty = false := by decide +kernel
  obtain ⟨changes, hok⟩ := Sample.exists_of_endsWell hrun.1
  refine ⟨H, hcolonless.2, hrun.1, hrun.2, ?_⟩
  exact ((searchSound_of_written H).2.2 t rfl Sample.words disk₂ (sourceFiles disk₂) id hcolonless.2
    (List.Perm.refl _) fun _ => List.Perm.refl _).2 changes hok

end CodeAtlas
