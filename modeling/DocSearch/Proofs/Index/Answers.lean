import DocSearch.Proofs.Index.Faults
import DocSearch.Proofs.Search.Results

/- What the report of an index says of the answers to questions: which of them leave something out or
lack something, and that in a valid index each page comes with a title and a file of its own. -/
namespace DocSearch

theorem SiteObject.isSome_link? (object : SiteObject) (suffix : String) :
    (object.link? suffix).isSome = object.document.isSome :=
  Option.isSome_map

theorem Postings.docs_eq (postings : Postings) :
    postings.docs = postings.records.map (·.doc.toNat) := by
  cases postings with
  | single doc => rfl
  | list docs => simp [Postings.docs, records, Posting.ofDoc]
  | detailed records => rfl

namespace SearchIndex

/-- The title and the file of a page stand in the lists of the index at the place of the page. -/
structure Owns (index : SearchIndex) (document : Document) : Prop where
  title : index.titles[document.doc]? = some document.title
  filename : ∀ names, index.filenames = some names →
    ∃ name, names[document.doc]? = some name ∧ document.filename = some name

/-- Every page that an answer is about has a title and a file of its own. -/
structure PagesOwned [Stemmers] (index : SearchIndex) : Prop where
  body : ∀ term, ∀ hit ∈ index.lookupTerm term, index.Owns hit.document
  title : ∀ term, ∀ hit ∈ index.lookupTitleTerm term, index.Owns hit.document
  objects : ∀ object ∈ index.siteObjects, ∀ document, object.document = some document →
    index.Owns document
  search : ∀ scorer language query limit, ∀ result ∈ index.search scorer language query limit,
    ∃ document, index.Owns document ∧ (result = shownPage document result.score ∨
      ∃ object ∈ index.siteObjects, object.document = some document ∧
        result = shownObject object document result.score)

variable {index : SearchIndex}

theorem isSome_document? {doc : Nat} :
    (index.document? doc).isSome = true ↔ doc < index.docnames.length :=
  Option.isSome_iff_exists.trans exists_document_iff

theorem document?_of_mem_hits {postings : Option Postings} {hit : TermHit}
    (member : hit ∈ index.hits postings) :
    index.document? hit.posting.doc.toNat = some hit.document := by
  obtain ⟨posting, _, found⟩ := List.mem_filterMap.1 member
  obtain ⟨document, placed, rfl⟩ := Option.map_eq_some_iff.1 found
  exact placed

theorem map_posting_hits (index : SearchIndex) (postings : Postings) :
    (index.hits (some postings)).map TermHit.posting =
      postings.records.filter (·.doc.toNat < index.docnames.length) := by
  rw [hits, Option.map_some, Option.getD_some]
  induction postings.records with
  | nil => rfl
  | cons posting rest ih =>
    cases found : index.document? posting.doc.toNat with
    | none =>
      have outside : ¬ posting.doc.toNat < index.docnames.length := by
        rw [← isSome_document?, found]
        decide
      rw [List.filterMap_cons_none (by rw [found]; rfl), ih,
        List.filter_cons_of_neg (by simpa using outside)]
    | some document =>
      have inside : posting.doc.toNat < index.docnames.length :=
        exists_document_iff.1 ⟨document, found⟩
      rw [List.filterMap_cons_some (by rw [found]; rfl), List.map_cons, ih,
        List.filter_cons_of_pos (by simpa using inside)]

theorem map_posting_hits_eq_iff {postings : Postings} :
    (index.hits (some postings)).map TermHit.posting = postings.records ↔
      ∀ doc ∈ postings.docs, doc < index.docnames.length := by
  rw [map_posting_hits, List.filter_eq_self, postings.docs_eq]
  simp

theorem no_posting_violation_iff :
    (∀ field term doc count, .postingOutOfRange field term doc count ∉ index.violations) ↔
      ∀ field terms, index.termMap? field = some terms → ∀ term postings,
        terms.get? term = some postings → ∀ doc ∈ postings.docs, doc < index.docnames.length := by
  simp only [mem_violations]
  constructor
  · intro clean field terms present term postings found doc member
    obtain ⟨number, named⟩ := List.mem_iff_getElem?.1 member
    have entry := KeyMap.get?_eq_some.1 found
    exact Nat.not_le.1 fun outside => clean _ _ _ _ ⟨_, .posting present entry named outside⟩
  · rintro inside field term doc count ⟨spot, fault⟩
    cases fault with
    | posting present entry named outside =>
      have found := KeyMap.get?_eq_some.2 entry
      exact Nat.not_le.2 (inside _ _ present _ _ found _ (List.mem_of_getElem? named)) outside

theorem lookups_whole_iff :
    (∀ field term doc count, .postingOutOfRange field term doc count ∉ index.violations) ↔
      (∀ term postings, index.terms.get? term = some postings →
        (index.lookupTerm term).map TermHit.posting = postings.records) ∧
      ∀ terms, index.titleterms = some terms → ∀ term postings, terms.get? term = some postings →
        (index.lookupTitleTerm term).map TermHit.posting = postings.records := by
  rw [no_posting_violation_iff]
  have body {term : String} {postings : Postings} (found : index.terms.get? term = some postings) :
      index.lookupTerm term = index.hits (some postings) := by
    rw [lookupTerm, bodyPostings?, found]
  have title {terms : KeyMap Postings} {term : String} {postings : Postings}
      (present : index.titleterms = some terms) (found : terms.get? term = some postings) :
      index.lookupTitleTerm term = index.hits (some postings) := by
    rw [lookupTitleTerm, titlePostings?, present, Option.bind_some, found]
  constructor
  · intro inside
    constructor
    · intro term postings found
      rw [body found]
      exact map_posting_hits_eq_iff.2 (inside .terms _ rfl term postings found)
    · intro terms present term postings found
      rw [title present found]
      exact map_posting_hits_eq_iff.2 (inside .titleterms _ present term postings found)
  · rintro ⟨wholeBody, wholeTitle⟩ field terms present term postings found
    cases field with
    | terms =>
      cases present
      exact map_posting_hits_eq_iff.1 (body found ▸ wholeBody term postings found)
    | titleterms =>
      exact map_posting_hits_eq_iff.1
        (title present found ▸ wholeTitle terms present term postings found)

theorem objects_placed_iff :
    (∀ fullname doc count, .objectDocOutOfRange fullname doc count ∉ index.violations) ↔
      ∀ object ∈ index.siteObjects, object.document.isSome = true := by
  simp only [mem_violations, siteObjects, List.forall_mem_map]
  constructor
  · rintro clean ⟨scope, entry⟩ member
    obtain ⟨number, listed⟩ := List.mem_iff_getElem?.1 member
    exact isSome_document?.2 (Nat.not_le.1 fun outside =>
      clean _ _ _ ⟨_, .objectPage listed outside⟩)
  · rintro placed fullname doc count ⟨spot, fault⟩
    cases fault with
    | objectPage listed outside =>
      have inside := isSome_document?.1 (placed _ (List.mem_of_getElem? listed))
      exact Nat.not_le.2 inside outside

theorem isSome_bind_get? {α : Type} (table : Option (KeyMap α)) (objtype : UInt64) :
    (table.bind (·.get? (typeKey objtype))).isSome = hasType table objtype := by
  cases table <;> rfl

theorem objects_typed_iff :
    (∀ fullname objtype table, .unknownObjectType fullname objtype table ∉ index.violations) ↔
      ∀ object ∈ index.siteObjects, object.objtype.isSome = true ∧ object.kind.isSome = true := by
  have typed (scope : String) (entry : ObjectEntry) :
      ((index.resolveEntry scope entry).objtype.isSome = true ↔
        index.ListsType .objtypes (typeKey entry.objtype)) ∧
      ((index.resolveEntry scope entry).kind.isSome = true ↔
        index.ListsType .objnames (typeKey entry.objtype)) := by
    simp only [resolveEntry, isSome_bind_get?]
    exact ⟨hasType_iff, hasType_iff⟩
  simp only [mem_violations, siteObjects, List.forall_mem_map, typed]
  constructor
  · rintro clean ⟨scope, entry⟩ member
    obtain ⟨number, listed⟩ := List.mem_iff_getElem?.1 member
    have lists (table : TypeTable) : index.ListsType table (typeKey entry.objtype) :=
      Classical.byContradiction fun missing => clean _ _ _ ⟨_, .objectType listed missing⟩
    exact ⟨lists .objtypes, lists .objnames⟩
  · rintro known fullname objtype table ⟨spot, fault⟩
    cases fault with
    | objectType listed missing =>
      obtain ⟨inTypes, inNames⟩ := known _ (List.mem_of_getElem? listed)
      cases table with
      | objtypes => exact missing inTypes
      | objnames => exact missing inNames

theorem Intact.owns (intact : index.Intact) {doc : Nat} {document : Document}
    (found : index.document? doc = some document) : index.Owns document := by
  have inside := exists_document_iff.1 ⟨document, found⟩
  obtain ⟨docname, _, rfl⟩ := Option.map_eq_some_iff.1 found
  constructor
  · have titled : doc < index.titles.length := by
      rwa [intact.lengths .titles _ rfl]
    simp [List.getElem?_eq_getElem titled]
  · intro names present
    have filed : doc < names.length := by
      rwa [intact.lengths .filenames _ present]
    exact ⟨names[doc], List.getElem?_eq_getElem filed,
      by simp [present, List.getElem?_eq_getElem filed]⟩

theorem Intact.pagesOwned [Stemmers] (intact : index.Intact) : index.PagesOwned where
  body term hit member := intact.owns (document?_of_mem_hits member)
  title term hit member := intact.owns (document?_of_mem_hits member)
  objects object listed document placed := by
    obtain ⟨⟨scope, entry⟩, _, rfl⟩ := List.mem_map.1 listed
    exact intact.owns placed
  search scorer language query limit result member := by
    have distinct := QueryTerms.parse_distinct language query
    cases kind : result.kind with
    | page =>
      obtain ⟨_, _, document, placed, same⟩ :=
        mem_pageResults distinct.search (page_of_mem_search member kind)
      exact ⟨document, intact.owns placed, Or.inl same⟩
    | object =>
      obtain ⟨_, object, document, _, qualifies, same⟩ :=
        objectResults_best distinct.objects (object_of_mem_search member kind)
      obtain ⟨⟨scope, entry⟩, _, rfl⟩ := List.mem_map.1 qualifies.listed
      exact ⟨document, intact.owns qualifies.placed,
        Or.inr ⟨_, qualifies.listed, qualifies.placed, same⟩⟩

/-- A report without postings out of range says that looking up a key of either map leaves out none of
its postings; one without objects out of range, that all objects have a page, and so a link; one without
unknown types, that all objects have both names of their type; and one without errors, that every page
that an answer is about has a title and a file of its own. -/
theorem answers_of_validate [Stemmers] (index : SearchIndex) :
    let errors := index.validate.errors
    ((∀ field term doc count, .postingOutOfRange field term doc count ∉ errors) ↔
      (∀ term postings, index.terms.get? term = some postings →
        (index.lookupTerm term).map TermHit.posting = postings.records) ∧
      ∀ terms, index.titleterms = some terms → ∀ term postings, terms.get? term = some postings →
        (index.lookupTitleTerm term).map TermHit.posting = postings.records) ∧
    ((∀ fullname doc count, .objectDocOutOfRange fullname doc count ∉ errors) ↔
      ∀ object ∈ index.siteObjects,
        object.document.isSome = true ∧ ∀ suffix, (object.link? suffix).isSome = true) ∧
    ((∀ fullname objtype table, .unknownObjectType fullname objtype table ∉ errors) ↔
      ∀ object ∈ index.siteObjects, object.objtype.isSome = true ∧ object.kind.isSome = true) ∧
    (index.validate.isValid = true → index.PagesOwned) := by
  refine ⟨lookups_whole_iff, ?_, objects_typed_iff, ?_⟩
  · simp only [SiteObject.isSome_link?, forall_const, and_self]
    exact objects_placed_iff
  · exact fun valid => (isValid_iff.1 valid).pagesOwned

def guideSite : SearchIndex where
  docnames := ["guide", "api"]
  filenames := some ["guide.rst", "api.rst"]
  titles := ["Guide", "Interface"]
  terms := .ofList [("grid", .list [0, 1])]
  titleterms := some (.ofList [("guid", .detailed [⟨0, some 2, none, none⟩])])
  objects := some (.listed (.ofList [("layout", [⟨"Cell", 1, 0, 1, ""⟩])]))
  objtypes := some (.ofList [("0", "py:class")])
  objnames := some (.ofList [("0", ⟨"py", "class", "Python class"⟩)])
  envversion := none
  extra := .empty

theorem answers_of_validate_guide :
    guideSite.validate.isValid = true ∧
      shownPage ⟨1, "api", "Interface", some "api.rst"⟩ 5 ∈
        guideSite.found .default .english "grid" ∧ guideSite.PagesOwned := by
  have valid : guideSite.validate.isValid = true := by decide +kernel
  exact ⟨valid, by decide +kernel, (answers_of_validate guideSite).2.2.2 valid⟩

end SearchIndex
end DocSearch
