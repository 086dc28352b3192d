import DocSearch.Proofs.Search.Objects
import DocSearch.Proofs.Search.Pages
import DocSearch.Stem.Snowball

/- What a search gives: which pages and which objects are among its results and with which scores,
how the results are ordered and cut, and what of this the order of the pages can change. -/
namespace DocSearch.SearchIndex
variable {index : SearchIndex} {scorer : Scorer} {language : Language} {query : String} {limit : Nat}

theorem filter_kind_self {results : List SearchResult} {kind : ResultKind}
    (all : ∀ result ∈ results, result.kind = kind) : results.filter (·.kind = kind) = results := by
  apply List.filter_eq_self.2
  intro result member
  exact decide_eq_true (all result member)

theorem filter_kind_other {results : List SearchResult} {kind other : ResultKind}
    (all : ∀ result ∈ results, result.kind = other) (different : other ≠ kind) :
    results.filter (·.kind = kind) = [] := by
  apply List.filter_eq_nil_iff.2
  intro result member same
  exact different ((all result member).symm.trans (of_decide_eq_true same))

theorem pages_of_found [Stemmers] (index : SearchIndex) (scorer : Scorer) (language : Language)
    (query : String) : (index.found scorer language query).filter (·.kind = .page) =
      index.pageResults scorer (QueryTerms.parse language query) := by
  have distinct := (QueryTerms.parse_distinct language query).objects
  unfold found foundFrom
  rw [List.filter_append, filter_kind_other (fun _ => kind_of_mem_objects distinct) (by decide),
    filter_kind_self (fun _ => kind_of_mem_pages), List.nil_append]
  rfl

theorem objects_of_found [Stemmers] (index : SearchIndex) (scorer : Scorer) (language : Language)
    (query : String) : (index.found scorer language query).filter (·.kind = .object) =
      index.objectResults scorer (QueryTerms.parse language query) := by
  have distinct := (QueryTerms.parse_distinct language query).objects
  unfold found foundFrom
  rw [List.filter_append, filter_kind_self (fun _ => kind_of_mem_objects distinct),
    filter_kind_other (fun _ => kind_of_mem_pages) (by decide), List.append_nil]

theorem pages_sorted [Stemmers] (unlimited : (index.found scorer language query).length ≤ limit) :
    (index.search scorer language query limit).filter (·.kind = .page) =
      (index.pageResults scorer (QueryTerms.parse language query)).mergeSort
        SearchResult.ranksBefore := by
  rw [search_eq, List.take_of_length_le (by rwa [List.length_mergeSort]),
    SearchResult.ranksBefore_sorts.mergeSort_filter, pages_of_found]

theorem page_of_mem_search [Stemmers] {result : SearchResult}
    (member : result ∈ index.search scorer language query limit) (page : result.kind = .page) :
    result ∈ index.pageResults scorer (QueryTerms.parse language query) := by
  rw [← pages_of_found]
  exact List.mem_filter.2 ⟨mem_found_of_mem_search member, decide_eq_true page⟩

theorem object_of_mem_search [Stemmers] {result : SearchResult}
    (member : result ∈ index.search scorer language query limit) (object : result.kind = .object) :
    result ∈ index.objectResults scorer (QueryTerms.parse language query) := by
  rw [← objects_of_found]
  exact List.mem_filter.2 ⟨mem_found_of_mem_search member, decide_eq_true object⟩

theorem listsPage_of_mem_search [Stemmers] {result : SearchResult}
    (member : result ∈ index.search scorer language query limit) (page : result.kind = .page) :
    index.ListsPage (QueryTerms.parse language query) result.doc :=
  (mem_pageResults (QueryTerms.parse_distinct language query).search
    (page_of_mem_search member page)).1

def smallSite : SearchIndex where
  docnames := ["install", "usage"]
  filenames := none
  titles := ["Grid", "grid"]
  terms := .ofList [("grid", .list [0, 1]), ("tabl", .single 1)]
  titleterms := none
  objects := some (.listed (.ofList [("layout", [⟨"Cell", 0, 0, 1, ""⟩, ⟨"Cell", 0, 0, 0, ""⟩])]))
  objtypes := none
  objnames := none
  envversion := none
  extra := .empty

/-- The pages of a search that is not cut: each page once, those that the terms list and no others,
each with the largest weight of a source that names it. -/
theorem pages_of_search [Stemmers] (unlimited : (index.found scorer language query).length ≤ limit) :
    let terms := QueryTerms.parse language query
    let pages := (index.search scorer language query limit).filter (·.kind = .page)
    (pages.map (·.doc)).Nodup ∧
      (∀ doc, doc ∈ pages.map (·.doc) ↔ index.ListsPage terms doc) ∧
      ∀ result ∈ pages, IsGreatest (index.weightsOn scorer terms.search result.doc) result.score ∧
        ∃ document, index.document? result.doc = some document ∧
          result = shownPage document result.score := by
  intro terms pages
  have distinct := QueryTerms.parse_distinct language query
  have perm : pages.Perm (index.pageResults scorer terms) := by
    rw [← pages_of_found]
    exact (search_perm_found unlimited).filter _
  have docs := perm.map (·.doc)
  refine ⟨docs.nodup_iff.2 (nodup_docs (List.Perm.refl _)), ?_, ?_⟩
  · intro doc
    rw [docs.mem_iff]
    constructor
    · intro member
      obtain ⟨result, shown, rfl⟩ := List.mem_map.1 member
      exact (mem_pageResults distinct.search shown).1
    · intro lists
      exact doc_mem_pageResults distinct.search lists
  · intro result member
    exact (mem_pageResults distinct.search (perm.mem_iff.1 member)).2

theorem pages_of_search_grid_without_table :
    let query := "grid -table"
    (smallSite.found .default .english query).length ≤ 3 ∧
      ∀ doc, doc ∈ ((smallSite.search .default .english query 3).filter (·.kind = .page)).map (·.doc) ↔
        smallSite.ListsPage (QueryTerms.parse .english query) doc :=
  ⟨by decide +kernel, (pages_of_search (by decide +kernel)).2.1⟩

/-- The objects of a search that is not cut: each page, anchor and full name once, those of the
qualifying objects and no others, each with the best score that any of them has for any chunk. -/
theorem objects_of_search [Stemmers] (unlimited : (index.found scorer language query).length ≤ limit) :
    let chunks := (QueryTerms.parse language query).objects
    let objects := (index.search scorer language query limit).filter (·.kind = .object)
    (objects.map objectKey).Nodup ∧
      (∀ key, key ∈ objects.map objectKey ↔ ∃ object document chunk,
        index.Qualifies chunks object document chunk ∧
          key = (document.doc, some object.anchor, object.fullname)) ∧
      ∀ result ∈ objects,
        IsGreatest (index.objectScores scorer chunks (objectKey result)) result.score ∧
          ∃ object document chunk, index.Qualifies chunks object document chunk ∧
            result = shownObject object document result.score := by
  intro chunks objects
  have distinct := QueryTerms.parse_distinct language query
  have perm : objects.Perm (index.objectResults scorer (QueryTerms.parse language query)) := by
    rw [← objects_of_found]
    exact (search_perm_found unlimited).filter _
  have keys := perm.map objectKey
  refine ⟨keys.nodup_iff.2 (objectResults_summed index scorer _).distinct, ?_, ?_⟩
  · intro key
    rw [keys.mem_iff]
    exact mem_keys_objectResults distinct.objects
  · intro result member
    exact objectResults_best distinct.objects (perm.mem_iff.1 member)

theorem objects_of_search_cell :
    let objects := (smallSite.search .default .english "cell" 3).filter (·.kind = .object)
    (smallSite.found .default .english "cell").length ≤ 3 ∧ ∀ result ∈ objects,
      IsGreatest (smallSite.objectScores .default ["cell"] (objectKey result)) result.score :=
  ⟨by decide +kernel, fun result member =>
    ((objects_of_search (by decide +kernel)).2.2 result member).1⟩

end DocSearch.SearchIndex
