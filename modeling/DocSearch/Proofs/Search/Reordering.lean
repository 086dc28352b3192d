import DocSearch.Proofs.Search.Results

/- The order of the chunks of a query decides nothing about what is found and with which scores, if each
term has a source. (Behind a term without one no term counts, so that its place matters.) -/
namespace DocSearch

def SearchResult.entry (result : SearchResult) : ResultKind × Nat × String × Option String × Int64 :=
  (result.kind, result.doc, result.title, result.anchor, result.score)

namespace SearchIndex
variable {index : SearchIndex} {scorer : Scorer} {language : Language} {query : String} {limit : Nat}

theorem countedTerms_of_sourced {terms : List String}
    (sourced : ∀ term ∈ terms, index.HasSource term) : index.countedTerms terms = terms :=
  List.takeWhile_eq_self_iff.2 fun term member => decide_eq_true (sourced term member)

section Pages
variable {terms other : QueryTerms} (reorders : terms.Reorders other)
  (sourced : ∀ term ∈ terms.search, index.HasSource term)
include reorders sourced

theorem sourced_of_reorders : ∀ term ∈ other.search, index.HasSource term :=
  fun term member => sourced term (reorders.search.mem_iff.2 member)

theorem termsOn_perm (doc : Nat) :
    (index.termsOn terms.search doc).Perm (index.termsOn other.search doc) := by
  unfold termsOn
  rw [countedTerms_of_sourced sourced,
    countedTerms_of_sourced (sourced_of_reorders reorders sourced)]
  exact reorders.search.filter _

theorem weightsOn_eq (doc : Nat) :
    index.weightsOn scorer terms.search doc = index.weightsOn scorer other.search doc := by
  unfold weightsOn
  rw [countedTerms_of_sourced sourced,
    countedTerms_of_sourced (sourced_of_reorders reorders sourced)]
  simp only [reorders.search.mem_iff]

theorem ListsPage.reordered {doc : Nat} (lists : index.ListsPage terms doc) :
    index.ListsPage other doc := by
  have size := (termsOn_perm reorders sourced doc).length_eq
  have all := reorders.search.length_eq
  have long := (reorders.search.filter (2 < ·.length)).length_eq
  refine ⟨lists.inside, size ▸ lists.matched, ?_, ?_⟩
  · rw [← size, ← all, ← long]
    exact lists.enough
  · exact fun term member => lists.allowed term (reorders.excluded.mem_iff.2 member)

theorem mem_pageResults_reordered (distinct : terms.search.Nodup)
    (distinctOther : other.search.Nodup) {result : SearchResult}
    (member : result ∈ index.pageResults scorer terms) :
    result ∈ index.pageResults scorer other := by
  obtain ⟨lists, best, document, found, shown⟩ := mem_pageResults distinct member
  have listed : result.doc ∈ (index.pageResults scorer other).map (·.doc) :=
    doc_mem_pageResults distinctOther (lists.reordered reorders sourced)
  obtain ⟨twin, twinMember, sameDoc⟩ := List.mem_map.1 listed
  obtain ⟨_, twinBest, twinDocument, twinFound, twinShown⟩ :=
    mem_pageResults distinctOther twinMember
  -- A page is shown with its score, and the score is the largest of the same weights.
  rw [sameDoc] at twinBest twinFound
  rw [weightsOn_eq reorders sourced] at best
  have sameScore : twin.score = result.score := twinBest.unique best
  have sameDocument : twinDocument = document := Option.some.inj (twinFound.symm.trans found)
  have same : twin = result := by rw [twinShown, sameDocument, sameScore, ← shown]
  exact same ▸ twinMember

theorem pageResults_perm (scorer : Scorer) (distinct : terms.search.Nodup)
    (distinctOther : other.search.Nodup) :
    (index.pageResults scorer terms).Perm (index.pageResults scorer other) := by
  have apart (terms : QueryTerms) : (index.pageResults scorer terms).Nodup :=
    List.Nodup.of_map _ (nodup_docs (List.Perm.refl _))
  apply (List.perm_ext_iff_of_nodup (apart terms) (apart other)).2
  intro result
  constructor
  · exact mem_pageResults_reordered reorders sourced distinct distinctOther
  · exact mem_pageResults_reordered reorders.symm (sourced_of_reorders reorders sourced)
      distinctOther distinct

end Pages

section Objects
variable {chunks others : List String} (order : chunks.Perm others)
include order

theorem Qualifies.reordered {object : SiteObject} {document : Document} {chunk : String}
    (qualifies : index.Qualifies chunks object document chunk) :
    index.Qualifies others object document chunk :=
  ⟨qualifies.listed, qualifies.visible, qualifies.placed, order.mem_iff.1 qualifies.asked,
    qualifies.named, fun other member => qualifies.described other (order.mem_iff.2 member)⟩

theorem objectScores_eq (key : Nat × Option String × String) :
    index.objectScores scorer chunks key = index.objectScores scorer others key := by
  ext score
  constructor
  · rintro ⟨object, document, chunk, qualifies, here, same⟩
    exact ⟨object, document, chunk, qualifies.reordered order, here, same⟩
  · rintro ⟨object, document, chunk, qualifies, here, same⟩
    exact ⟨object, document, chunk, qualifies.reordered order.symm, here, same⟩

end Objects

theorem nodup_entries (index : SearchIndex) (scorer : Scorer) (terms : QueryTerms) :
    ((index.objectResults scorer terms).map SearchResult.entry).Nodup := by
  have keys := (objectResults_summed index scorer terms).distinct
  apply List.Nodup.of_map fun (_, doc, title, anchor, _) => (doc, anchor, title)
  rwa [List.map_map]

section Entries
variable {terms other : QueryTerms} (distinct : terms.objects.Nodup)
  (distinctOther : other.objects.Nodup) (order : terms.objects.Perm other.objects)
include distinct distinctOther order

theorem mem_entries_reordered {result : SearchResult}
    (member : result ∈ index.objectResults scorer terms) :
    result.entry ∈ (index.objectResults scorer other).map SearchResult.entry := by
  obtain ⟨best, object, document, chunk, qualifies, shown⟩ := objectResults_best distinct member
  have key : objectKey result = (document.doc, some object.anchor, object.fullname) := by
    rw [shown]
    rfl
  obtain ⟨twin, twinMember, sameKey⟩ := List.mem_map.1 ((mem_keys_objectResults distinctOther).2
    ⟨object, document, chunk, qualifies.reordered order, key⟩)
  have twinBest := (objectResults_best distinctOther twinMember).1
  rw [sameKey, ← objectScores_eq order] at twinBest
  have sameScore : twin.score = result.score := twinBest.unique best
  have sameKind : twin.kind = result.kind :=
    (kind_of_mem_objects distinctOther twinMember).trans (kind_of_mem_objects distinct member).symm
  simp only [objectKey, Prod.mk.injEq] at sameKey
  obtain ⟨sameDoc, sameAnchor, sameTitle⟩ := sameKey
  refine List.mem_map.2 ⟨twin, twinMember, ?_⟩
  rw [SearchResult.entry, sameKind, sameDoc, sameTitle, sameAnchor, sameScore]
  rfl

theorem entries_perm (index : SearchIndex) (scorer : Scorer) :
    ((index.objectResults scorer terms).map SearchResult.entry).Perm
      ((index.objectResults scorer other).map SearchResult.entry) := by
  apply (List.perm_ext_iff_of_nodup (nodup_entries _ _ _) (nodup_entries _ _ _)).2
  intro entry
  constructor
  · intro member
    obtain ⟨result, found, rfl⟩ := List.mem_map.1 member
    exact mem_entries_reordered distinct distinctOther order found
  · intro member
    obtain ⟨result, found, rfl⟩ := List.mem_map.1 member
    exact mem_entries_reordered distinctOther distinct order.symm found

end Entries

/-- A search that is not cut finds the same, with the same scores, in whatever order the chunks of the
query stand, if each of its search terms has a source. -/
theorem search_reordered [Stemmers] {other : String}
    (chunks : (Text.pieces Text.isBlank query.toList).Perm (Text.pieces Text.isBlank other.toList))
    (sourced : ∀ term ∈ (QueryTerms.parse language query).search, index.HasSource term)
    (unlimited : (index.found scorer language query).length ≤ limit) :
    ((index.search scorer language query limit).map SearchResult.entry).Perm
      ((index.search scorer language other limit).map SearchResult.entry) := by
  have reorders := QueryTerms.parse_reorders language chunks
  have distinct := QueryTerms.parse_distinct language query
  have distinctOther := QueryTerms.parse_distinct language other
  have objects := entries_perm distinct.objects distinctOther.objects reorders.objects index scorer
  have pages := (pageResults_perm reorders sourced scorer distinct.search
    distinctOther.search).map SearchResult.entry
  have found : ((index.found scorer language query).map SearchResult.entry).Perm
      ((index.found scorer language other).map SearchResult.entry) := by
    unfold SearchIndex.found foundFrom
    rw [List.map_append, List.map_append]
    exact objects.append pages
  have size : (index.found scorer language other).length ≤ limit := by
    have same := found.length_eq
    rw [List.length_map, List.length_map] at same
    exact same ▸ unlimited
  have before := (search_perm_found unlimited).map SearchResult.entry
  have after := (search_perm_found size).map SearchResult.entry
  exact (before.trans found).trans after.symm

def cellSite : SearchIndex where
  docnames := ["layout"]
  filenames := none
  titles := ["Grid"]
  terms := .ofList [("cell", .single 0), ("grid", .single 0)]
  titleterms := none
  objects := some (.listed (.ofList [("layout", [⟨"Cell", 0, 0, 1, ""⟩])]))
  objtypes := none
  objnames := none
  envversion := none
  extra := .empty

theorem search_reordered_cell_grid :
    let entries := fun query => (cellSite.search .default .english query 5).map SearchResult.entry
    (Text.pieces Text.isBlank "cell grid".toList).Perm (Text.pieces Text.isBlank "grid cell".toList) ∧
      (∀ term ∈ (QueryTerms.parse .english "cell grid").search, cellSite.HasSource term) ∧
      (cellSite.found .default .english "cell grid").length = 2 ∧
      (entries "cell grid").Perm (entries "grid cell") := by
  have chunks : (Text.pieces Text.isBlank "cell grid".toList).Perm
      (Text.pieces Text.isBlank "grid cell".toList) := by
    decide +kernel
  have sourced : ∀ term ∈ (QueryTerms.parse .english "cell grid").search,
      cellSite.HasSource term := by
    decide +kernel
  have found : (cellSite.found .default .english "cell grid").length = 2 := by decide +kernel
  exact ⟨chunks, sourced, found, search_reordered chunks sourced (by omega)⟩

end SearchIndex
end DocSearch
