import DocSearch.Proofs.Search.Results

/- The pages that match a query come in no fixed order. Whatever the order, a search is a ranking of
all that is found, and two orders can only swap pages of the same standing. -/
namespace DocSearch

/-- The results are the best ones of all that is found, in the order of their standings. -/
structure IsRanking (found : List SearchResult) (limit : Nat) (results : List SearchResult) :
    Prop where
  size : results.length = min limit found.length
  ordered : results.Pairwise fun a b => a.standing.Above b.standing ∨ a.standing = b.standing
  best : ∃ omitted, (results ++ omitted).Perm found ∧
    ∀ result ∈ results, ∀ other ∈ omitted, ¬ other.standing.Above result.standing
  pagesOnce : ((results.filter (·.kind = .page)).map (·.doc)).Nodup
  objectsOnce : ((results.filter (·.kind = .object)).map SearchIndex.objectKey).Nodup

theorem IsRanking.of_sorted {found sorted : List SearchResult} (perm : sorted.Perm found)
    (ordered : sorted.Pairwise fun a b => ¬ b.standing.Above a.standing)
    (pages : ((found.filter (·.kind = .page)).map (·.doc)).Nodup)
    (objects : ((found.filter (·.kind = .object)).map SearchIndex.objectKey).Nodup) (limit : Nat) :
    IsRanking found limit (sorted.take limit) where
  size := by rw [List.length_take, perm.length_eq]
  ordered := (ordered.sublist (List.take_sublist limit sorted)).imp Standing.above_or_eq
  best := by
    refine ⟨sorted.drop limit, by rwa [List.take_append_drop], ?_⟩
    rw [← List.take_append_drop limit sorted] at ordered
    exact (List.pairwise_append.1 ordered).2.2
  pagesOnce := by
    have all := ((perm.filter (·.kind = .page)).map (·.doc)).nodup_iff.2 pages
    exact all.sublist (((List.take_sublist limit sorted).filter _).map _)
  objectsOnce := by
    have all := ((perm.filter (·.kind = .object)).map SearchIndex.objectKey).nodup_iff.2 objects
    exact all.sublist (((List.take_sublist limit sorted).filter _).map _)

/-- No two pages have the same score and the same title in lowercase. -/
def PagesApart (found : List SearchResult) : Prop :=
  ∀ a ∈ found, ∀ b ∈ found, a.kind = .page → b.kind = .page → a.score = b.score →
    Text.lowercase a.title = Text.lowercase b.title → a = b

namespace SearchResult

theorem sorted_pairwise (results : List SearchResult) :
    (results.mergeSort ranksBefore).Pairwise fun a b => ¬ b.standing.Above a.standing :=
  (ranksBefore_sorts.pairwise results).imp ranksBefore_iff.1

theorem map_standing_mergeSort {a b : List SearchResult} (perm : a.Perm b) :
    (a.mergeSort ranksBefore).map standing = (b.mergeSort ranksBefore).map standing := by
  have ordered (items : List SearchResult) :
      ((items.mergeSort ranksBefore).map standing).Pairwise fun x y => ¬ y.Above x :=
    List.pairwise_map.2 (sorted_pairwise items)
  have sorted := (List.mergeSort_perm a ranksBefore).trans perm
  have places := (sorted.trans (List.mergeSort_perm b ranksBefore).symm).map standing
  refine List.Perm.eq_of_pairwise ?_ (ordered a) (ordered b) places
  intro x y _ _ notBelow notAbove
  rcases Standing.above_or_eq notBelow with above | same
  · exact absurd above notAbove
  · exact same

end SearchResult

namespace SearchIndex
variable {index : SearchIndex} {scorer : Scorer} {language : Language} {query : String} {limit : Nat}

section
variable [Stemmers] {tallies : List Tally}
  (order : tallies.Perm (index.countWords scorer (QueryTerms.parse language query).search []))
include order

theorem isRanking_searchFrom : IsRanking (index.found scorer language query) limit
    (index.searchFrom scorer language query limit tallies) := by
  rw [searchFrom_eq order]
  apply IsRanking.of_sorted
  · exact (List.mergeSort_perm _ _).trans (foundFrom_perm_found order)
  · exact SearchResult.sorted_pairwise _
  · rw [pages_of_found]
    exact nodup_docs (List.Perm.refl _)
  · rw [objects_of_found]
    exact (objectResults_summed index scorer _).distinct

theorem map_standing_searchFrom :
    (index.searchFrom scorer language query limit tallies).map SearchResult.standing =
      (index.search scorer language query limit).map SearchResult.standing := by
  rw [searchFrom_eq order, search_eq, List.map_take, List.map_take,
    SearchResult.map_standing_mergeSort (foundFrom_perm_found order)]

/-- Where no two pages tie, at most one page has a given standing, and it comes in any order. -/
theorem filter_foundFrom (apart : PagesApart (index.found scorer language query))
    (standing : Standing) :
    (index.foundFrom scorer (QueryTerms.parse language query) tallies).filter
        (·.standing = standing) =
      (index.found scorer language query).filter (·.standing = standing) := by
  have pages := order.filterMap (index.pageResult? (QueryTerms.parse language query))
  unfold found foundFrom
  dsimp only
  rw [List.filter_append, List.filter_append]
  congr 1
  have anyOrder (items : List SearchResult) : items.Pairwise fun _ _ => True :=
    List.pairwise_of_forall fun _ _ => trivial
  -- All pages that pass the filter are the same one, so that any order of them is sorted.
  refine List.Perm.eq_of_pairwise ?_ (anyOrder _) (anyOrder _) (pages.filter _)
  intro a b first second _ _
  obtain ⟨first, here⟩ := List.mem_filter.1 first
  obtain ⟨second, there⟩ := List.mem_filter.1 second
  have same : a.standing = b.standing :=
    (of_decide_eq_true here).trans (of_decide_eq_true there).symm
  apply apart a (List.mem_append_right _ (pages.mem_iff.1 first)) b
    (List.mem_append_right _ second)
  · exact kind_of_mem_pages first
  · exact kind_of_mem_pages second
  · exact congrArg Standing.score same
  · exact congrArg Standing.title same

theorem searchFrom_eq_search (apart : PagesApart (index.found scorer language query)) :
    index.searchFrom scorer language query limit tallies =
      index.search scorer language query limit := by
  rw [searchFrom_eq order, search_eq,
    SearchResult.ranksBefore_sorts.mergeSort_congr (filter_foundFrom order apart)]

end

/-- Two searches that take the matched pages in different orders rank the same finds, with the same
standings in the same places, wherever the limit cuts; they find the same if it cuts nothing, and
they are the same if no two pages tie. -/
theorem searches_agree [Stemmers] {first second : List Tally}
    (firstOrder : first.Perm
      (index.countWords scorer (QueryTerms.parse language query).search []))
    (secondOrder : second.Perm
      (index.countWords scorer (QueryTerms.parse language query).search [])) :
    let found := index.found scorer language query
    let one := index.searchFrom scorer language query limit first
    let two := index.searchFrom scorer language query limit second
    (IsRanking found limit one ∧ IsRanking found limit two) ∧
      one.map SearchResult.standing = two.map SearchResult.standing ∧
      (found.length ≤ limit → one.Perm two) ∧ (PagesApart found → one = two) := by
  intro found one two
  refine ⟨⟨isRanking_searchFrom firstOrder, isRanking_searchFrom secondOrder⟩, ?_, ?_, ?_⟩
  · exact (map_standing_searchFrom firstOrder).trans (map_standing_searchFrom secondOrder).symm
  · intro unlimited
    exact (searchFrom_perm_found firstOrder unlimited).trans
      (searchFrom_perm_found secondOrder unlimited).symm
  · intro apart
    exact (searchFrom_eq_search firstOrder apart).trans (searchFrom_eq_search secondOrder apart).symm

theorem searches_agree_tied_pages :
    let install : Tally := ⟨0, ["grid"], 5⟩
    let usage : Tally := ⟨1, ["grid"], 5⟩
    let searchIn := fun limit => smallSite.searchFrom .default .english "grid" limit
    smallSite.countWords .default (QueryTerms.parse .english "grid").search [] = [install, usage] ∧
      (searchIn 1 [install, usage]).map SearchResult.standing =
        (searchIn 1 [usage, install]).map SearchResult.standing ∧
      (searchIn 2 [install, usage]).Perm (searchIn 2 [usage, install]) := by
  intro install usage searchIn
  have counted : smallSite.countWords .default (QueryTerms.parse .english "grid").search [] =
      [install, usage] := by decide +kernel
  have first : [install, usage].Perm
      (smallSite.countWords .default (QueryTerms.parse .english "grid").search []) := by
    rw [counted]
  have second : [usage, install].Perm
      (smallSite.countWords .default (QueryTerms.parse .english "grid").search []) := by
    rw [counted]
    exact List.Perm.swap install usage []
  refine ⟨counted, (searches_agree first second).2.1, ?_⟩
  exact (searches_agree first second).2.2.1 (by decide +kernel)

end SearchIndex
end DocSearch
