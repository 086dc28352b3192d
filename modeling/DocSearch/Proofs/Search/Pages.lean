import DocSearch.Proofs.Search.Ranking
import DocSearch.Proofs.Search.Tallies

/- Which pages a search lists, said of the index and the terms alone: a page has to exist, enough of
the counted terms have to stand on it and no excluded one, and it scores by its best source. -/
namespace DocSearch.SearchIndex
variable {index : SearchIndex} {scorer : Scorer} {language : Language} {query : String} {limit : Nat}

/-- The weights of all sources of counted terms that name a page. -/
def weightsOn (index : SearchIndex) (scorer : Scorer) (terms : List String) (doc : Nat) : Set Int64 :=
  {value | ∃ term ∈ index.countedTerms terms, ∃ postings weight,
    index.IsSource term postings weight ∧ doc ∈ postings.docs ∧ value = weight scorer}

structure ListsPage (index : SearchIndex) (terms : QueryTerms) (doc : Nat) : Prop where
  inside : doc < index.docnames.length
  matched : 0 < (index.termsOn terms.search doc).length
  enough : (index.termsOn terms.search doc).length = terms.search.length ∨
    (index.termsOn terms.search doc).length = (terms.search.filter (2 < ·.length)).length
  allowed : ∀ term ∈ terms.excluded, ∀ postings, index.bodyPostings? term = some postings ∨
    index.titlePostings? term = some postings → doc ∉ postings.docs

def shownPage (document : Document) (score : Int64) : SearchResult where
  kind := .page
  doc := document.doc
  docname := document.docname
  title := document.title
  anchor := none
  description := none
  filename := document.filename
  score := score

theorem mem_termsOn {terms : List String} {term : String} {doc : Nat} :
    term ∈ index.termsOn terms doc ↔ term ∈ index.countedTerms terms ∧ index.OnPage term doc := by
  simp [termsOn]

theorem nodup_termsOn {terms : List String} (distinct : terms.Nodup) (doc : Nat) :
    (index.termsOn terms doc).Nodup :=
  (distinct.sublist (List.takeWhile_sublist _)).sublist List.filter_sublist

theorem words_of_occurrences (scorer : Scorer) {terms : List String} {term : String} {doc : Nat} :
    term ∈ ((index.occurrences scorer terms).filter (·.doc = doc)).map Occurrence.word ↔
      term ∈ index.termsOn terms doc := by
  rw [mem_termsOn, List.mem_map]
  constructor
  · rintro ⟨occurrence, member, rfl⟩
    obtain ⟨member, here⟩ := List.mem_filter.1 member
    obtain ⟨counts, postings, weight, isSource, inside, _⟩ := mem_occurrences.1 member
    exact ⟨counts, postings, weight, isSource, of_decide_eq_true here ▸ inside⟩
  · rintro ⟨counts, postings, weight, isSource, inside⟩
    refine ⟨⟨term, weight scorer, doc⟩, List.mem_filter.2 ⟨?_, by simp⟩, rfl⟩
    exact mem_occurrences.2 ⟨counts, postings, weight, isSource, inside, rfl⟩

theorem weights_of_occurrences (terms : List String) (doc : Nat) :
    {weight | weight ∈
        ((index.occurrences scorer terms).filter (·.doc = doc)).map Occurrence.weight} =
      index.weightsOn scorer terms doc := by
  ext value
  constructor
  · intro member
    obtain ⟨occurrence, chosen, rfl⟩ := List.mem_map.1 member
    obtain ⟨member, here⟩ := List.mem_filter.1 chosen
    obtain ⟨counts, postings, weight, isSource, inside, same⟩ := mem_occurrences.1 member
    exact ⟨_, counts, postings, weight, isSource, of_decide_eq_true here ▸ inside, same⟩
  · rintro ⟨term, counts, postings, weight, isSource, inside, rfl⟩
    refine List.mem_map.2 ⟨⟨term, weight scorer, doc⟩, List.mem_filter.2 ⟨?_, by simp⟩, rfl⟩
    exact mem_occurrences.2 ⟨counts, postings, weight, isSource, inside, rfl⟩

theorem words_perm {terms : List String} (distinct : terms.Nodup) {tally : Tally}
    (member : tally ∈ index.countWords scorer terms []) :
    tally.words.Perm (index.termsOn terms tally.doc) := by
  have sums := (countWords_summed index scorer terms).2.sums tally member
  apply (List.perm_ext_iff_of_nodup sums.distinct (nodup_termsOn distinct _)).2
  intro term
  exact (sums.mem_words term).trans (words_of_occurrences scorer)

theorem best_isGreatest {terms : List String} {tally : Tally}
    (member : tally ∈ index.countWords scorer terms []) :
    IsGreatest (index.weightsOn scorer terms tally.doc) tally.best := by
  have sums := (countWords_summed index scorer terms).2.sums tally member
  rw [← weights_of_occurrences]
  exact sums.best

theorem exists_tally_iff (scorer : Scorer) {terms : List String} {doc : Nat} :
    (∃ tally ∈ index.countWords scorer terms [], tally.doc = doc) ↔
      0 < (index.termsOn terms doc).length := by
  rw [List.length_pos_iff_exists_mem]
  constructor
  · rintro ⟨tally, member, rfl⟩
    obtain ⟨term, counts, postings, weight, isSource, inside, _⟩ := (best_isGreatest member).1
    exact ⟨term, mem_termsOn.2 ⟨counts, postings, weight, isSource, inside⟩⟩
  · rintro ⟨term, member⟩
    obtain ⟨occurrence, member, _⟩ := List.mem_map.1 ((words_of_occurrences scorer).2 member)
    obtain ⟨member, here⟩ := List.mem_filter.1 member
    obtain ⟨tally, tallied, same⟩ :=
      List.mem_map.1 ((countWords_summed index scorer terms).2.complete occurrence member)
    exact ⟨tally, tallied, same.trans (of_decide_eq_true here)⟩

theorem isExcluded_eq_false {terms : QueryTerms} {doc : Nat} :
    index.isExcluded terms doc = false ↔
      ∀ term ∈ terms.excluded, ∀ postings, index.bodyPostings? term = some postings ∨
        index.titlePostings? term = some postings → doc ∉ postings.docs := by
  have holds (found : Option Postings) : (found.map (·.contains doc)).getD false = false ↔
      ∀ postings, found = some postings → doc ∉ postings.docs := by
    cases found <;> simp [Postings.contains]
  simp only [isExcluded, List.any_eq_false, Bool.not_eq_true, Bool.or_eq_false_iff, holds]
  constructor
  · intro allowed term member postings found
    rcases found with body | title
    · exact (allowed term member).1 postings body
    · exact (allowed term member).2 postings title
  · intro allowed term member
    exact ⟨fun postings found => allowed term member postings (Or.inl found),
      fun postings found => allowed term member postings (Or.inr found)⟩

theorem document?_doc {doc : Nat} {document : Document}
    (found : index.document? doc = some document) : document.doc = doc := by
  obtain ⟨docname, _, rfl⟩ := Option.map_eq_some_iff.1 found
  rfl

theorem exists_document_iff {doc : Nat} :
    (∃ document, index.document? doc = some document) ↔ doc < index.docnames.length := by
  rw [← Option.isSome_iff_exists]
  simp [document?]

theorem pageResult?_eq_some {terms : QueryTerms} {tally : Tally} {result : SearchResult} :
    index.pageResult? terms tally = some result ↔
      hasEnough terms tally = true ∧ index.isExcluded terms tally.doc = false ∧
        ∃ document, index.document? tally.doc = some document ∧
          result = shownPage document tally.best := by
  unfold pageResult?
  split
  · rename_i refused
    simp only [Bool.or_eq_true, Bool.not_eq_true'] at refused
    rcases refused with few | excluded
    · simp [few]
    · simp [excluded]
  · rename_i shown
    simp only [Bool.or_eq_true, Bool.not_eq_true', not_or, Bool.not_eq_false,
      Bool.not_eq_true] at shown
    simp only [shown, true_and, Option.map_eq_some_iff]
    constructor
    · rintro ⟨document, found, rfl⟩
      exact ⟨document, found, by rw [shownPage, document?_doc found]⟩
    · rintro ⟨document, found, rfl⟩
      exact ⟨document, found, by rw [shownPage, document?_doc found]⟩

theorem kind_of_mem_pages {terms : QueryTerms} {tallies : List Tally} {result : SearchResult}
    (member : result ∈ tallies.filterMap (index.pageResult? terms)) : result.kind = .page := by
  obtain ⟨tally, _, shown⟩ := List.mem_filterMap.1 member
  obtain ⟨_, _, document, _, rfl⟩ := pageResult?_eq_some.1 shown
  rfl

theorem doc_of_pageResult? {terms : QueryTerms} {tally : Tally} {result : SearchResult}
    (shown : index.pageResult? terms tally = some result) : result.doc = tally.doc := by
  obtain ⟨_, _, document, found, rfl⟩ := pageResult?_eq_some.1 shown
  exact document?_doc found

/-- In whatever order the tallies come, no page is listed twice. -/
theorem nodup_docs {terms : QueryTerms} {tallies : List Tally}
    (order : tallies.Perm (index.countWords scorer terms.search [])) :
    ((tallies.filterMap (index.pageResult? terms)).map (·.doc)).Nodup := by
  have apart : tallies.Pairwise fun a b => a.doc ≠ b.doc := by
    have docs := ((order.map Tally.doc).nodup_iff).2
      (countWords_summed index scorer terms.search).2.distinct
    exact List.pairwise_map.1 docs
  apply List.pairwise_map.2
  apply List.Pairwise.filterMap (index.pageResult? terms) ?_ apart
  intro a b different x shownA y shownB
  rwa [doc_of_pageResult? shownA, doc_of_pageResult? shownB]

theorem hasEnough_iff {terms : QueryTerms} (distinct : terms.search.Nodup) {tally : Tally}
    (member : tally ∈ index.countWords scorer terms.search []) : hasEnough terms tally = true ↔
      (index.termsOn terms.search tally.doc).length = terms.search.length ∨
      (index.termsOn terms.search tally.doc).length =
        (terms.search.filter (2 < ·.length)).length := by
  rw [hasEnough, Bool.or_eq_true, decide_eq_true_eq, decide_eq_true_eq,
    (words_perm distinct member).length_eq]
  rfl

theorem mem_pageResults {terms : QueryTerms} (distinct : terms.search.Nodup)
    {result : SearchResult} (member : result ∈ index.pageResults scorer terms) :
    index.ListsPage terms result.doc ∧
      IsGreatest (index.weightsOn scorer terms.search result.doc) result.score ∧
        ∃ document, index.document? result.doc = some document ∧
          result = shownPage document result.score := by
  obtain ⟨tally, tallied, shown⟩ := List.mem_filterMap.1 member
  obtain ⟨enough, notExcluded, document, found, rfl⟩ := pageResult?_eq_some.1 shown
  have here : (shownPage document tally.best).doc = tally.doc := document?_doc found
  rw [here]
  refine ⟨?_, best_isGreatest tallied, document, found, rfl⟩
  exact ⟨exists_document_iff.1 ⟨document, found⟩, (exists_tally_iff scorer).1 ⟨tally, tallied, rfl⟩,
    (hasEnough_iff distinct tallied).1 enough, isExcluded_eq_false.1 notExcluded⟩

theorem doc_mem_pageResults {terms : QueryTerms} (distinct : terms.search.Nodup) {doc : Nat}
    (lists : index.ListsPage terms doc) : doc ∈ (index.pageResults scorer terms).map (·.doc) := by
  obtain ⟨tally, tallied, rfl⟩ := (exists_tally_iff scorer).2 lists.matched
  obtain ⟨document, found⟩ := exists_document_iff.2 lists.inside
  have shown : index.pageResult? terms tally = some (shownPage document tally.best) :=
    pageResult?_eq_some.2 ⟨(hasEnough_iff distinct tallied).2 lists.enough,
      isExcluded_eq_false.2 lists.allowed, document, found, rfl⟩
  exact List.mem_map.2 ⟨_, List.mem_filterMap.2 ⟨tally, tallied, shown⟩, document?_doc found⟩

end DocSearch.SearchIndex
