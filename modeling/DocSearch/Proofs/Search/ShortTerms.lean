import DocSearch.Proofs.Search.Results

/- A page is listed for the number of counted terms on it, not for the terms themselves, so that a
term of one or two characters can stand in for a longer one. -/
namespace DocSearch.SearchIndex
variable {index : SearchIndex} {scorer : Scorer} {language : Language} {query : String} {limit : Nat}

def longTerms (terms : List String) : List String := terms.filter (2 < ·.length)

def uncountedTerms (index : SearchIndex) (terms : List String) : List String :=
  terms.dropWhile fun term => index.HasSource term

def shortTermsOn (index : SearchIndex) (terms : List String) (doc : Nat) : List String :=
  (index.termsOn terms doc).filter fun term => !decide (2 < term.length)

/-- The long terms on a page that come too late to be counted. -/
def lateTermsOn (index : SearchIndex) (terms : List String) (doc : Nat) : List String :=
  (longTerms (index.uncountedTerms terms)).filter fun term => index.OnPage term doc

theorem length_termsOn (index : SearchIndex) (terms : List String) (doc : Nat) :
    (index.termsOn terms doc).length = (longTerms (index.termsOn terms doc)).length +
      (index.shortTermsOn terms doc).length :=
  List.length_eq_length_filter_add _

theorem long_terms_on_page_iff_length {terms : List String} {doc : Nat} :
    (∀ term ∈ terms, 2 < term.length → index.OnPage term doc) ↔
      (longTerms (index.termsOn terms doc)).length + (index.lateTermsOn terms doc).length =
        (longTerms terms).length := by
  have parts : (longTerms (index.termsOn terms doc)).length + (index.lateTermsOn terms doc).length =
      ((longTerms terms).filter fun term => index.OnPage term doc).length := by
    have split : index.countedTerms terms ++ index.uncountedTerms terms = terms :=
      List.takeWhile_append_dropWhile
    conv_rhs => rw [← split]
    simp only [longTerms, lateTermsOn, termsOn, List.filter_append, List.length_append]
    rw [List.filter_comm]
  rw [parts, List.length_filter_eq_length_iff]
  simp [longTerms]

theorem every_term_on_page {terms : List String} {doc : Nat}
    (all : (index.termsOn terms doc).length = terms.length) :
    ∀ term ∈ terms, index.OnPage term doc := by
  have inside : (index.termsOn terms doc).Sublist terms :=
    List.filter_sublist.trans (List.takeWhile_sublist _)
  intro term member
  rw [← inside.eq_of_length all] at member
  exact (mem_termsOn.1 member).2

/-- A listed page has all long terms of the query exactly if it has all terms, or if no short term
that is counted on it makes up for a long one that is not. -/
theorem long_terms_on_page_iff [Stemmers] {result : SearchResult}
    (member : result ∈ index.search scorer language query limit) (page : result.kind = .page) :
    let terms := (QueryTerms.parse language query).search
    (∀ term ∈ terms, 2 < term.length → index.OnPage term result.doc) ↔
      (index.termsOn terms result.doc).length = terms.length ∨
        (index.shortTermsOn terms result.doc).length =
          (index.lateTermsOn terms result.doc).length := by
  intro terms
  have enough : (index.termsOn terms result.doc).length = terms.length ∨
      (index.termsOn terms result.doc).length = (longTerms terms).length :=
    (listsPage_of_mem_search member page).enough
  have size := length_termsOn index terms result.doc
  -- With as many counted terms as long ones, the short ones on the page balance all long ones that
  -- are not counted, those off the page among them.
  constructor
  · intro onPage
    have onPage := long_terms_on_page_iff_length.1 onPage
    rcases enough with all | longOnly
    · exact Or.inl all
    · exact Or.inr (by omega)
  · rintro (all | balance)
    · exact fun term member _ => every_term_on_page all term member
    · rcases enough with all | longOnly
      · exact fun term member _ => every_term_on_page all term member
      · exact long_terms_on_page_iff_length.2 (by omega)

def tableSite : SearchIndex where
  docnames := ["a", "b"]
  filenames := none
  titles := ["A", "B"]
  terms := .ofList [("grid", .single 0), ("io", .single 0), ("tabl", .single 1)]
  titleterms := none
  objects := none
  objtypes := none
  objnames := none
  envversion := none
  extra := .empty

theorem long_terms_on_page_iff_grid :
    let terms := (QueryTerms.parse .english "grid").search
    shownPage ⟨0, "a", "A", none⟩ 5 ∈ tableSite.search .default .english "grid" 10 ∧
      ((∀ term ∈ terms, 2 < term.length → tableSite.OnPage term 0) ↔
        (tableSite.termsOn terms 0).length = terms.length ∨
          (tableSite.shortTermsOn terms 0).length = (tableSite.lateTermsOn terms 0).length) := by
  have member : shownPage ⟨0, "a", "A", none⟩ 5 ∈ tableSite.search .default .english "grid" 10 := by
    decide +kernel
  exact ⟨member, long_terms_on_page_iff member rfl⟩

/-- The first page is listed for a grid and a table although it has no table: it has the short term
instead. -/
theorem short_term_makes_up_for_table :
    ¬ ∀ result ∈ tableSite.search .default .english "io grid table" 10, result.kind = .page →
      ∀ term ∈ (QueryTerms.parse .english "io grid table").search, 2 < term.length →
        tableSite.OnPage term result.doc := by
  decide +kernel

end DocSearch.SearchIndex
