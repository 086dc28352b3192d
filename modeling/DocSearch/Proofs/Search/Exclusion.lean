import DocSearch.Proofs.Search.Results

/- A query with one more excluded word. It lists the same pages, less those that a stem of the word names.
An object it can list anew, because the excluded word, dash included, is one more chunk to find in a full
name. -/
namespace DocSearch

def SearchResult.identity (result : SearchResult) :
    ResultKind × Nat × String × Option String :=
  (result.kind, result.doc, result.title, result.anchor)

namespace SearchIndex
variable {index : SearchIndex} {scorer : Scorer} {language : Language} {query : String} {limit : Nat}

/-- The postings of exactly this term, in bodies or in titles, name the page. -/
def Names (index : SearchIndex) (term : String) (doc : Nat) : Prop :=
  ∃ postings, (index.bodyPostings? term = some postings ∨
    index.titlePostings? term = some postings) ∧ doc ∈ postings.docs

theorem isExcluded_eq_false_iff {terms : QueryTerms} {doc : Nat} :
    index.isExcluded terms doc = false ↔ ∀ term ∈ terms.excluded, ¬ index.Names term doc := by
  rw [isExcluded_eq_false]
  simp only [Names, not_exists, not_and]

instance (index : SearchIndex) (term : String) (doc : Nat) : Decidable (index.Names term doc) :=
  decidable_of_iff (index.isExcluded ⟨[], [term], []⟩ doc = true) (by
    rw [← Bool.not_eq_false, isExcluded_eq_false_iff]
    simp)

/-- More excluded terms take away the pages that they name, and change nothing else. -/
theorem pageResults_excluding (index : SearchIndex) (scorer : Scorer)
    {terms more : QueryTerms} {added : List String}
    (search : more.search = terms.search)
    (excluded : ∀ term, term ∈ more.excluded ↔ term ∈ terms.excluded ∨ term ∈ added) :
    index.pageResults scorer more = (index.pageResults scorer terms).filter
      fun result => ∀ term ∈ added, ¬ index.Names term result.doc := by
  unfold pageResults
  rw [search, List.filter_filterMap]
  apply List.filterMap_congr
  intro tally _
  have enough : hasEnough more tally = hasEnough terms tally := by rw [hasEnough, search, hasEnough]
  have allowed : index.isExcluded more tally.doc = false ↔
      index.isExcluded terms tally.doc = false ∧ ∀ term ∈ added, ¬ index.Names term tally.doc := by
    simp only [isExcluded_eq_false_iff, excluded, or_imp, forall_and]
  ext result
  rw [Option.filter_eq_some_iff, pageResult?_eq_some, pageResult?_eq_some, enough, allowed]
  constructor
  · rintro ⟨enough, ⟨allowed, unnamed⟩, document, found, rfl⟩
    refine ⟨⟨enough, allowed, document, found, rfl⟩, decide_eq_true ?_⟩
    rwa [show (shownPage document tally.best).doc = tally.doc from document?_doc found]
  · rintro ⟨⟨enough, allowed, document, found, rfl⟩, unnamed⟩
    refine ⟨enough, ⟨allowed, ?_⟩, document, found, rfl⟩
    rw [← document?_doc found]
    exact of_decide_eq_true unnamed

theorem mem_pageResults_of_excludes {terms more : QueryTerms} {word : String}
    (excludes : terms.Excludes more word) {result : SearchResult}
    (member : result ∈ index.pageResults scorer more) : result ∈ index.pageResults scorer terms := by
  have excluded : ∀ term, term ∈ more.excluded ↔ term ∈ terms.excluded ∨ term ∈ more.excluded :=
    fun term => ⟨Or.inr, fun either => either.elim (excludes.excluded term) id⟩
  rw [index.pageResults_excluding scorer excludes.search excluded] at member
  exact (List.mem_filter.1 member).1

/-- An object that is found with a chunk more is found without it, if its name holds one of the other
chunks. -/
theorem Qualifies.of_addNew {chunks : List String} {new chunk other : String} {object : SiteObject}
    {document : Document}
    (qualifies : index.Qualifies (QueryTerms.addNew chunks new) object document chunk)
    (asked : other ∈ chunks) (named : other.toList <:+: Text.lower object.fullname.toList) :
    ∃ chunk, index.Qualifies chunks object document chunk := by
  have described {chunk : String} (member : chunk ∈ chunks) := qualifies.described chunk
    (QueryTerms.mem_addNew.2 (Or.inl member))
  by_cases old : chunk ∈ chunks
  · exact ⟨chunk, qualifies.listed, qualifies.visible, qualifies.placed, old, qualifies.named,
      fun _ member different => described member different⟩
  -- Found by the new chunk, the object is described by all the others.
  · refine ⟨other, qualifies.listed, qualifies.visible, qualifies.placed, asked, named, ?_⟩
    intro chunk' member _
    refine described member ?_
    rintro rfl
    exact old member

theorem mem_keys_iff_of_addNew {terms more : QueryTerms} {new : String} (distinct : terms.objects.Nodup)
    (distinctMore : more.objects.Nodup) (objects : more.objects = QueryTerms.addNew terms.objects new)
    {result : SearchResult} (member : result ∈ index.objectResults scorer more) :
    objectKey result ∈ (index.objectResults scorer terms).map objectKey ↔
      ∃ chunk ∈ terms.objects, chunk.toList <:+: Text.lower result.title.toList := by
  rw [mem_keys_objectResults distinct]
  constructor
  · rintro ⟨object, document, chunk, qualifies, same⟩
    have title : result.title = object.fullname := congrArg (·.2.2) same
    exact ⟨chunk, qualifies.asked, title ▸ qualifies.named⟩
  · rintro ⟨chunk, asked, named⟩
    obtain ⟨_, object, document, found, qualifies, same⟩ := objectResults_best distinctMore member
    have title : result.title = object.fullname := by rw [same]; rfl
    obtain ⟨chunk, qualifies⟩ := (objects ▸ qualifies).of_addNew asked (title ▸ named)
    exact ⟨object, document, chunk, qualifies, by rw [same]; rfl⟩

theorem named_of_new {terms more : QueryTerms} {new : String} (distinctMore : more.objects.Nodup)
    (objects : more.objects = QueryTerms.addNew terms.objects new) {result : SearchResult}
    (member : result ∈ index.objectResults scorer more)
    (unnamed : ∀ chunk ∈ terms.objects, ¬ chunk.toList <:+: Text.lower result.title.toList) :
    new.toList <:+: Text.lower result.title.toList := by
  obtain ⟨_, object, document, chunk, qualifies, same⟩ := objectResults_best distinctMore member
  have title : result.title = object.fullname := by rw [same]; rfl
  have named : chunk.toList <:+: Text.lower result.title.toList := title ▸ qualifies.named
  have asked := qualifies.asked
  rw [objects] at asked
  rcases QueryTerms.mem_addNew.1 asked with old | rfl
  · exact absurd named (unnamed chunk old)
  · exact named

theorem identity_mem_iff {results : List SearchResult} {result : SearchResult}
    (object : result.kind = .object) : result.identity ∈ results.map SearchResult.identity ↔
      objectKey result ∈ (results.filter (·.kind = .object)).map objectKey := by
  simp only [List.mem_map, List.mem_filter, decide_eq_true_eq, SearchResult.identity, objectKey,
    Prod.mk.injEq, object]
  constructor
  · rintro ⟨other, member, kind, doc, title, anchor⟩
    exact ⟨other, ⟨member, kind⟩, doc, anchor, title⟩
  · rintro ⟨other, ⟨member, kind⟩, doc, anchor, title⟩
    exact ⟨other, member, kind, doc, title, anchor⟩

/-- One more excluded word adds no page. An object that is found with it is found without it exactly
if one of the other chunks stands in its name; in the name of an object that is added, the word does,
dash included. -/
theorem exclusion_narrows [Stemmers]
    {word : String} (unbroken : ∀ c ∈ word.toList, Text.isBlank c = false)
    (unlimited : (index.found scorer language query).length ≤ limit) {more : Nat}
    {result : SearchResult}
    (member : result ∈ index.search scorer language (query ++ " -" ++ word) more) :
    let before := index.search scorer language query limit
    let named (chunk : String) := chunk.toList <:+: Text.lower result.title.toList
    (result.kind = .page → result ∈ before) ∧
      (result.kind = .object → (result.identity ∈ before.map SearchResult.identity ↔
        ∃ chunk ∈ (QueryTerms.parse language query).objects, named chunk)) ∧
      (result.identity ∉ before.map SearchResult.identity →
        named (Text.lowercase ("-" ++ word))) := by
  intro before named
  have excludes := QueryTerms.parse_excludes language query unbroken
  have distinct := QueryTerms.parse_distinct language query
  have distinctMore := QueryTerms.parse_distinct language (query ++ " -" ++ word)
  have all : before.Perm (index.found scorer language query) := search_perm_found unlimited
  have found := mem_found_of_mem_search member
  have page (kind : result.kind = .page) : result ∈ before := by
    have shown : result ∈ (index.found scorer language (query ++ " -" ++ word)).filter
        (·.kind = .page) := List.mem_filter.2 ⟨found, decide_eq_true kind⟩
    rw [pages_of_found] at shown
    have kept := mem_pageResults_of_excludes excludes shown
    rw [← pages_of_found] at kept
    exact all.mem_iff.2 (List.mem_filter.1 kept).1
  have offered (kind : result.kind = .object) : result ∈ index.objectResults scorer
      (QueryTerms.parse language (query ++ " -" ++ word)) := by
    rw [← objects_of_found]
    exact List.mem_filter.2 ⟨found, decide_eq_true kind⟩
  have object (kind : result.kind = .object) : result.identity ∈ before.map SearchResult.identity ↔
      ∃ chunk ∈ (QueryTerms.parse language query).objects, named chunk := by
    rw [identity_mem_iff kind, ((all.filter _).map objectKey).mem_iff, objects_of_found]
    exact mem_keys_iff_of_addNew distinct.objects distinctMore.objects excludes.objects
      (offered kind)
  refine ⟨page, object, fun added => ?_⟩
  cases kind : result.kind with
  | page => exact absurd (List.mem_map_of_mem (page kind)) added
  | object =>
    apply named_of_new distinctMore.objects excludes.objects (offered kind)
    intro chunk asked holds
    exact added ((object kind).2 ⟨chunk, asked, holds⟩)

def themeSite : SearchIndex where
  docnames := ["themes"]
  filenames := none
  titles := ["Themes"]
  terms := .ofList [("theme", .single 0)]
  titleterms := none
  objects := some (.listed (.ofList [("", [⟨"code-block", 0, 0, 1, ""⟩])]))
  objtypes := none
  objnames := none
  envversion := none
  extra := .empty

theorem exclusion_narrows_themes :
    let after := themeSite.search .default .english ("themes" ++ " -" ++ "dark") 10
    (∀ c ∈ "dark".toList, Text.isBlank c = false) ∧
      (themeSite.found .default .english "themes").length ≤ 10 ∧
      shownPage ⟨0, "themes", "Themes", none⟩ 5 ∈ after ∧
      shownPage ⟨0, "themes", "Themes", none⟩ 5 ∈ themeSite.search .default .english "themes" 10 := by
  have member : shownPage ⟨0, "themes", "Themes", none⟩ 5 ∈
      themeSite.search .default .english ("themes" ++ " -" ++ "dark") 10 := by
    decide +kernel
  have unlimited : (themeSite.found .default .english "themes").length ≤ 10 := by decide +kernel
  have unbroken : ∀ c ∈ "dark".toList, Text.isBlank c = false := by simp [Text.isBlank]
  exact ⟨unbroken, unlimited, member, (exclusion_narrows unbroken unlimited member).1 rfl⟩

/-- The exclusion of blocks finds the directive, which the other word alone does not. -/
theorem exclusion_adds_object :
    (themeSite.found .default .english "themes").length ≤ 10 ∧
      (themeSite.found .default .english ("themes" ++ " -" ++ "block")).length ≤ 10 ∧
      ¬ ∀ result ∈ themeSite.search .default .english ("themes" ++ " -" ++ "block") 10,
        result.identity ∈ (themeSite.search .default .english "themes" 10).map
          SearchResult.identity := by
  have unlimited : (themeSite.found .default .english ("themes" ++ " -" ++ "block")).length ≤ 10 := by
    decide +kernel
  refine ⟨by decide +kernel, unlimited, fun kept => ?_⟩
  let directive : SearchResult :=
    ⟨.object, 0, "themes", "code-block", some "code-block", some "object, in Themes", none, 11⟩
  have added : directive ∈ themeSite.found .default .english ("themes" ++ " -" ++ "block") := by
    decide +kernel
  have before := kept directive ((search_perm_found unlimited).mem_iff.2 added)
  revert before
  decide +kernel

/-- The pages of a query with one more excluded word are those of the query without it, less the pages
that a stem of the excluded word names. They keep their scores and their order. -/
theorem exclusion_removes_pages [Stemmers]
    {word : String} (unbroken : ∀ c ∈ word.toList, Text.isBlank c = false)
    (unlimited : (index.found scorer language query).length ≤ limit) {more : Nat}
    (unlimitedMore : (index.found scorer language (query ++ " -" ++ word)).length ≤ more) :
    (index.search scorer language (query ++ " -" ++ word) more).filter (·.kind = .page) =
      ((index.search scorer language query limit).filter (·.kind = .page)).filter fun result =>
        ∀ stem ∈ (QueryTerms.parse language ("-" ++ word)).excluded,
          ¬ index.Names stem result.doc := by
  have excludes := QueryTerms.parse_excludes language query unbroken
  have pages := index.pageResults_excluding scorer excludes.search
    fun _ => QueryTerms.mem_excluded_with_exclusion unbroken
  rw [pages_sorted unlimitedMore, pages_sorted unlimited, pages,
    SearchResult.ranksBefore_sorts.mergeSort_filter]

theorem exclusion_removes_pages_tables :
    let pages := fun query => (smallSite.search .default .english query 3).filter (·.kind = .page)
    (∀ c ∈ "tables".toList, Text.isBlank c = false) ∧
      (smallSite.found .default .english "grid").length ≤ 3 ∧
      (smallSite.found .default .english ("grid" ++ " -" ++ "tables")).length ≤ 3 ∧
      ((QueryTerms.parse .english ("-" ++ "tables")).excluded = ["tabl"] ∧
        smallSite.Names "tabl" 1) ∧
      pages ("grid" ++ " -" ++ "tables") = (pages "grid").filter fun result =>
        ∀ stem ∈ (QueryTerms.parse .english ("-" ++ "tables")).excluded,
          ¬ smallSite.Names stem result.doc := by
  have unbroken : ∀ c ∈ "tables".toList, Text.isBlank c = false := by simp [Text.isBlank]
  have unlimited : (smallSite.found .default .english "grid").length ≤ 3 := by decide +kernel
  have unlimitedMore :
      (smallSite.found .default .english ("grid" ++ " -" ++ "tables")).length ≤ 3 := by
    decide +kernel
  exact ⟨unbroken, unlimited, unlimitedMore, by decide +kernel,
    exclusion_removes_pages unbroken unlimited unlimitedMore⟩

end SearchIndex
end DocSearch
