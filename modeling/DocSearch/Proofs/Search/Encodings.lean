import DocSearch.Index.Lookup
import DocSearch.Proofs.Index.Answers
import DocSearch.Proofs.Search.Ranking
import DocSearch.Proofs.Search.Tallies

/- The encodings of an index decide nothing: indexes that list the same pages under the same terms and
the same objects in the same order give the same answers. -/
namespace DocSearch

/-- The pages under each term, in order, without what else their postings hold. -/
def listing (terms : KeyMap Postings) : List (String × List Nat) :=
  terms.entries.map fun entry => (entry.1, entry.2.docs)

section Listing
variable {a b : KeyMap Postings} (same : listing a = listing b)
include same

theorem docs_get? (term : String) :
    (a.get? term).map Postings.docs = (b.get? term).map Postings.docs := by
  have found (terms : KeyMap Postings) :
      (terms.get? term).map Postings.docs = (listing terms).lookup term :=
    (lookup_map_values Postings.docs terms.entries term).symm
  rw [found, found, same]

theorem size_of_listing : a.size = b.size := by
  have sizes := congrArg List.length same
  rwa [listing, listing, List.length_map, List.length_map] at sizes

theorem checkTerms_of_listing (field : TermField) (count : Nat) :
    SearchIndex.checkTerms field count a = SearchIndex.checkTerms field count b := by
  have read (terms : KeyMap Postings) : SearchIndex.checkTerms field count terms =
      (listing terms).flatMap fun (term, docs) =>
        (if term.isEmpty then [.emptyTerm field] else []) ++
          (docs.filter (count ≤ ·)).map (.postingOutOfRange field term · count) := by
    rw [listing, List.flatMap_map]
    rfl
  rw [read, read, same]

end Listing

namespace SearchIndex

def named (source : Source) : List Nat × Int64 := (source.1.docs, source.2)

section Sources
variable {a b : KeyMap Postings} (same : listing a = listing b) (term : String) (weight : Int64)
include same

theorem named_exactSource : (exactSource a term weight).map named =
    (exactSource b term weight).map named := by
  have docs := docs_get? same term
  unfold exactSource
  cases first : a.get? term with
  | none =>
    rw [first, Option.map_none, eq_comm, Option.map_eq_none_iff] at docs
    rw [docs]
  | some postings =>
    rw [first, Option.map_some, eq_comm, Option.map_eq_some_iff] at docs
    obtain ⟨others, second, docs⟩ := docs
    rw [second]
    simp [named, docs]

theorem named_partialSources : (partialSources a term weight).map named =
    (partialSources b term weight).map named := by
  have read (terms : KeyMap Postings) : (partialSources terms term weight).map named =
      if ((terms.get? term).map Postings.docs).isSome then []
      else ((listing terms).filter fun (key, _) => Text.occursIn term.toList key.toList).map
        fun (_, docs) => (docs, weight) := by
    unfold partialSources KeyMap.contains listing
    rw [Option.isSome_map, List.filter_map, List.map_map]
    split
    · rfl
    · rw [List.map_map]
      rfl
  rw [read, read, docs_get? same term, same]

end Sources

/-- Indexes that differ at most in how they store the same data: each term lists the same pages in the
same order, and the objects with their scopes are the same in the same order. -/
structure SameData (a b : SearchIndex) : Prop where
  docnames : a.docnames = b.docnames
  filenames : a.filenames = b.filenames
  titles : a.titles = b.titles
  terms : listing a.terms = listing b.terms
  titleterms : listing a.titleMap = listing b.titleMap
  entries : a.entries = b.entries
  objtypes : a.objtypes = b.objtypes
  objnames : a.objnames = b.objnames
  envversion : a.envversion = b.envversion

namespace SameData
variable {a b : SearchIndex} (same : a.SameData b)
include same

theorem document? : a.document? = b.document? := by
  funext doc
  rw [SearchIndex.document?, SearchIndex.document?, same.docnames, same.titles, same.filenames]

theorem documents : a.documents = b.documents := by
  rw [SearchIndex.documents, SearchIndex.documents, same.docnames, same.document?]

theorem siteObjects : a.siteObjects = b.siteObjects := by
  have resolved : a.resolveEntry = b.resolveEntry := by
    funext scope entry
    unfold SearchIndex.resolveEntry
    rw [same.objtypes, same.objnames, same.document?]
  rw [SearchIndex.siteObjects, SearchIndex.siteObjects, same.entries, resolved]

theorem summary : a.summary = b.summary := by
  have titleTerms (index : SearchIndex) :
      (index.titleterms.map KeyMap.size).getD 0 = index.titleMap.size := by
    unfold titleMap
    cases index.titleterms <;> rfl
  unfold SearchIndex.summary
  rw [same.docnames, size_of_listing same.terms, titleTerms, titleTerms,
    size_of_listing same.titleterms, same.siteObjects, same.envversion]

theorem violations : a.violations = b.violations := by
  have titleTerms (index : SearchIndex) (count : Nat) :
      (index.titleterms.map (checkTerms .titleterms count)).getD [] =
        checkTerms .titleterms count index.titleMap := by
    unfold titleMap
    cases index.titleterms <;> rfl
  have entries : a.checkEntry = b.checkEntry := by
    funext scope entry
    unfold checkEntry
    rw [same.docnames, same.objtypes, same.objnames]
  unfold SearchIndex.violations
  dsimp only
  rw [same.docnames, same.titles, same.filenames, checkTerms_of_listing same.terms, titleTerms,
    titleTerms, checkTerms_of_listing same.titleterms, same.entries, entries, same.objtypes,
    same.objnames]

theorem validate : a.validate = b.validate := by
  have warnings : a.warnings = b.warnings := by
    unfold SearchIndex.warnings
    rw [same.envversion]
  rw [SearchIndex.validate, SearchIndex.validate, same.violations, warnings]

theorem resolveConf? : a.resolveConf? = b.resolveConf? := by
  unfold SearchIndex.resolveConf? confObjects
  rw [same.siteObjects]

theorem docs_bodyPostings? (term : String) :
    (a.bodyPostings? term).map Postings.docs = (b.bodyPostings? term).map Postings.docs :=
  docs_get? same.terms term

theorem docs_titlePostings? (term : String) :
    (a.titlePostings? term).map Postings.docs = (b.titlePostings? term).map Postings.docs := by
  rw [titlePostings?_eq, titlePostings?_eq]
  exact docs_get? same.titleterms term

theorem map_document_hits {one other : Option Postings}
    (docs : one.map Postings.docs = other.map Postings.docs) :
    (a.hits one).map TermHit.document = (b.hits other).map TermHit.document := by
  have read (index : SearchIndex) (postings : Option Postings) :
      (index.hits postings).map TermHit.document =
        ((postings.map Postings.docs).getD []).filterMap index.document? := by
    unfold hits
    cases postings with
    | none => rfl
    | some postings =>
      rw [List.map_filterMap, Option.map_some, Option.map_some, Option.getD_some, Option.getD_some,
        Postings.docs_eq, List.filterMap_map]
      congr 1
      funext posting
      simp [Option.map_map, Function.comp_def]
  rw [read, read, docs, same.document?]

theorem objectResults (scorer : Scorer) (terms : QueryTerms) :
    a.objectResults scorer terms = b.objectResults scorer terms := by
  unfold SearchIndex.objectResults
  rw [same.siteObjects]

theorem named_sources (scorer : Scorer) (term : String) :
    (a.sources scorer term).map named = (b.sources scorer term).map named := by
  simp only [sources, List.map_append, apply_ite (List.map named), List.map_nil,
    named_exactSource same.terms, named_exactSource same.titleterms,
    named_partialSources same.terms, named_partialSources same.titleterms]

theorem countedTerms (terms : List String) : a.countedTerms terms = b.countedTerms terms := by
  have sourced (term : String) : a.HasSource term ↔ b.HasSource term := by
    have inA : a.HasSource term ↔ a.sources .default term ≠ [] := hasSource_iff
    have inB : b.HasSource term ↔ b.sources .default term ≠ [] := hasSource_iff
    rw [inA, inB, ne_eq, ne_eq, ← List.map_eq_nil_iff (f := named), same.named_sources,
      List.map_eq_nil_iff]
  simp only [SearchIndex.countedTerms, sourced]

theorem countWords (scorer : Scorer) (terms : List String) :
    a.countWords scorer terms [] = b.countWords scorer terms [] := by
  have read (index : SearchIndex) (term : String) :
      (index.sources scorer term).flatMap (occurrencesIn term) =
        ((index.sources scorer term).map named).flatMap fun (docs, weight) =>
          docs.map fun doc => ⟨term, weight, doc⟩ := by
    rw [List.flatMap_map]
    rfl
  rw [countWords_eq_foldl, countWords_eq_foldl, occurrences, occurrences, same.countedTerms]
  simp only [read, same.named_sources]

theorem isExcluded (terms : QueryTerms) (doc : Nat) :
    a.isExcluded terms doc = b.isExcluded terms doc := by
  have read (postings : Option Postings) : (postings.map (·.contains doc)).getD false =
      ((postings.map Postings.docs).map (·.contains doc)).getD false := by
    cases postings <;> rfl
  unfold SearchIndex.isExcluded
  simp only [read, same.docs_bodyPostings?, same.docs_titlePostings?]

theorem searchFrom [Stemmers] (scorer : Scorer) (language : Language) (query : String) (limit : Nat) :
    a.searchFrom scorer language query limit = b.searchFrom scorer language query limit := by
  have pages (terms : QueryTerms) : a.pageResult? terms = b.pageResult? terms := by
    funext tally
    unfold pageResult?
    rw [same.isExcluded, same.document?]
  funext tallies
  unfold SearchIndex.searchFrom
  dsimp only
  rw [same.objectResults, pages]

end SameData

/-- Indexes that store the same data in different encodings give the same report, the same summary, the
same pages and objects, the same references and the same search results in any order that the matched
pages are taken in; looking up a term shows the same pages in the same order. -/
theorem answers_of_sameData [Stemmers] {a b : SearchIndex} (same : a.SameData b) :
    (a.validate = b.validate ∧ a.summary = b.summary ∧ a.documents = b.documents) ∧
    (a.siteObjects = b.siteObjects ∧
      (∀ fullname, a.resolveObject fullname = b.resolveObject fullname) ∧
      ∀ target role context,
        a.resolveConf? target role context = b.resolveConf? target role context) ∧
    (∀ scorer language query limit,
      a.search scorer language query limit = b.search scorer language query limit ∧
      ∀ tallies, tallies.Perm
          (a.countWords scorer (QueryTerms.parse language query).search []) →
        tallies.Perm (b.countWords scorer (QueryTerms.parse language query).search []) ∧
        a.searchFrom scorer language query limit tallies =
          b.searchFrom scorer language query limit tallies) ∧
    ∀ term, (a.lookupTerm term).map TermHit.document = (b.lookupTerm term).map TermHit.document ∧
      (a.lookupTitleTerm term).map TermHit.document =
        (b.lookupTitleTerm term).map TermHit.document := by
  refine ⟨⟨same.validate, same.summary, same.documents⟩, ⟨same.siteObjects, ?_, ?_⟩, ?_, ?_⟩
  · intro fullname
    rw [resolveObject, resolveObject, same.siteObjects]
  · intro target role context
    rw [same.resolveConf?]
  · intro scorer language query limit
    refine ⟨?_, fun tallies order => ⟨?_, ?_⟩⟩
    · rw [search_eq_searchFrom, search_eq_searchFrom, same.countWords, same.searchFrom]
    · rwa [← same.countWords]
    · rw [same.searchFrom]
  · intro term
    exact ⟨same.map_document_hits (same.docs_bodyPostings? term),
      same.map_document_hits (same.docs_titlePostings? term)⟩

def guideSiteDetailed : SearchIndex :=
  { guideSite with
    terms := .ofList [("grid", .detailed [⟨0, some 4, none, none⟩, ⟨1, none, none, some "top"⟩])]
    titleterms := some (.ofList [("guid", .single 0)])
    objects := some (.named (.ofList [("layout", .ofList [("Cell", ⟨"Cell", 1, 0, 1, ""⟩)])])) }

theorem answers_of_sameData_guide :
    guideSite.SameData guideSiteDetailed ∧
      guideSite.lookupTerm "grid" ≠ guideSiteDetailed.lookupTerm "grid" ∧
      (guideSite.lookupTerm "grid").map TermHit.document =
        (guideSiteDetailed.lookupTerm "grid").map TermHit.document ∧
      (guideSite.found .default .english "grid").length = 2 ∧
      guideSite.search .default .english "grid" 5 =
        guideSiteDetailed.search .default .english "grid" 5 := by
  have same : guideSite.SameData guideSiteDetailed :=
    ⟨rfl, rfl, rfl, by decide +kernel, by decide +kernel, by decide +kernel, rfl, rfl, rfl⟩
  obtain ⟨_, _, search, lookups⟩ := answers_of_sameData same
  exact ⟨same, by decide +kernel, (lookups "grid").1, by decide +kernel,
    (search .default .english "grid" 5).1⟩

end SearchIndex
end DocSearch
