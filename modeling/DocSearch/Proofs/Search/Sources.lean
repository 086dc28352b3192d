import DocSearch.Search.Engine

/- The postings that count for a term of a query, and the terms that count at all: those before the
first one without such postings. -/
namespace DocSearch.SearchIndex

/-- Postings that count for a term, with the weight that they count by. -/
inductive IsSource (index : SearchIndex) (term : String) : Postings → (Scorer → Int64) → Prop
  | body {postings : Postings} (found : index.bodyPostings? term = some postings) :
    IsSource index term postings Scorer.term
  | title {postings : Postings} (found : index.titlePostings? term = some postings) :
    IsSource index term postings Scorer.title
  | partialBody {postings : Postings} {key : String} (long : 2 < term.length)
    (absent : index.bodyPostings? term = none) (entry : (key, postings) ∈ index.terms.entries)
    (holds : term.toList <:+: key.toList) : IsSource index term postings Scorer.partialTerm
  | partialTitle {postings : Postings} {key : String} (long : 2 < term.length)
    (absent : index.titlePostings? term = none) (entry : (key, postings) ∈ index.titleMap.entries)
    (holds : term.toList <:+: key.toList) : IsSource index term postings Scorer.partialTitle

def HasSource (index : SearchIndex) (term : String) : Prop :=
  ∃ postings weight, index.IsSource term postings weight

/-- Some source of the term names the page. -/
def OnPage (index : SearchIndex) (term : String) (doc : Nat) : Prop :=
  ∃ postings weight, index.IsSource term postings weight ∧ doc ∈ postings.docs

theorem titlePostings?_eq (index : SearchIndex) (term : String) :
    index.titlePostings? term = index.titleMap.get? term := by
  unfold titlePostings? titleMap
  cases index.titleterms with
  | none => rfl
  | some terms => rfl

theorem mem_exactSource {terms : KeyMap Postings} {word : String} {weight : Int64} {source : Source} :
    source ∈ exactSource terms word weight ↔
      terms.get? word = some source.1 ∧ source.2 = weight := by
  obtain ⟨postings, w⟩ := source
  unfold exactSource
  cases terms.get? word with
  | none => simp
  | some found => simp [eq_comm]

theorem mem_partialSources {terms : KeyMap Postings} {word : String} {weight : Int64}
    {source : Source} :
    source ∈ partialSources terms word weight ↔ terms.get? word = none ∧ source.2 = weight ∧
      ∃ key, (key, source.1) ∈ terms.entries ∧ word.toList <:+: key.toList := by
  obtain ⟨postings, w⟩ := source
  unfold partialSources KeyMap.contains
  cases terms.get? word with
  | none =>
    simp only [Option.isSome_none, Bool.false_eq_true, if_false, List.mem_map, List.mem_filter,
      Text.occursIn_iff, Prod.mk.injEq, true_and]
    constructor
    · rintro ⟨⟨key, found⟩, ⟨entry, holds⟩, rfl, rfl⟩
      exact ⟨rfl, key, entry, holds⟩
    · rintro ⟨rfl, key, entry, holds⟩
      exact ⟨(key, postings), ⟨entry, holds⟩, rfl, rfl⟩
  | some found => simp

theorem mem_sources {index : SearchIndex} {scorer : Scorer} {term : String} {source : Source} :
    source ∈ index.sources scorer term ↔
      ∃ weight, index.IsSource term source.1 weight ∧ source.2 = weight scorer := by
  have members : source ∈ index.sources scorer term ↔
      (source ∈ exactSource index.terms term scorer.term ∨
        source ∈ exactSource index.titleMap term scorer.title) ∨
      2 < term.length ∧ (source ∈ partialSources index.terms term scorer.partialTerm ∨
        source ∈ partialSources index.titleMap term scorer.partialTitle) := by
    unfold sources isLong
    rw [List.mem_append, List.mem_append]
    split
    · rename_i long
      simp [of_decide_eq_true long]
    · rename_i short
      have short : ¬ 2 < term.length := by simpa using short
      simp [short]
  rw [members]
  simp only [mem_exactSource, mem_partialSources]
  constructor
  · rintro ((⟨found, same⟩ | ⟨found, same⟩) |
      ⟨long, ⟨absent, same, key, entry, holds⟩ | ⟨absent, same, key, entry, holds⟩⟩)
    · exact ⟨_, .body found, same⟩
    · exact ⟨_, .title (index.titlePostings?_eq term ▸ found), same⟩
    · exact ⟨_, .partialBody long absent entry holds, same⟩
    · exact ⟨_, .partialTitle long (index.titlePostings?_eq term ▸ absent) entry holds, same⟩
  · rintro ⟨weight, isSource, same⟩
    cases isSource with
    | body found => exact Or.inl (Or.inl ⟨found, same⟩)
    | title found => exact Or.inl (Or.inr ⟨index.titlePostings?_eq term ▸ found, same⟩)
    | partialBody long absent entry holds =>
      exact Or.inr ⟨long, Or.inl ⟨absent, same, _, entry, holds⟩⟩
    | partialTitle long absent entry holds =>
      exact Or.inr ⟨long, Or.inr ⟨index.titlePostings?_eq term ▸ absent, same, _, entry, holds⟩⟩

theorem hasSource_iff {index : SearchIndex} {scorer : Scorer} {term : String} :
    index.HasSource term ↔ index.sources scorer term ≠ [] := by
  constructor
  · rintro ⟨postings, weight, isSource⟩
    exact List.ne_nil_of_mem (mem_sources.2 ⟨weight, isSource, rfl⟩ :
      (postings, weight scorer) ∈ index.sources scorer term)
  · intro some
    obtain ⟨source, member⟩ := List.exists_mem_of_ne_nil _ some
    obtain ⟨weight, isSource, _⟩ := mem_sources.1 member
    exact ⟨source.1, weight, isSource⟩

theorem onPage_iff {index : SearchIndex} {scorer : Scorer} {term : String} {doc : Nat} :
    index.OnPage term doc ↔ ∃ source ∈ index.sources scorer term, doc ∈ source.1.docs := by
  constructor
  · rintro ⟨postings, weight, isSource, member⟩
    exact ⟨(postings, weight scorer), mem_sources.2 ⟨weight, isSource, rfl⟩, member⟩
  · rintro ⟨source, isSource, member⟩
    obtain ⟨weight, isSource, _⟩ := mem_sources.1 isSource
    exact ⟨source.1, weight, isSource, member⟩

instance (index : SearchIndex) (term : String) : Decidable (index.HasSource term) :=
  decidable_of_iff (index.sources .default term ≠ []) hasSource_iff.symm

instance (index : SearchIndex) (term : String) (doc : Nat) : Decidable (index.OnPage term doc) :=
  decidable_of_iff (∃ source ∈ index.sources .default term, doc ∈ source.1.docs) onPage_iff.symm

/-- The terms before the first one without a source. -/
def countedTerms (index : SearchIndex) (terms : List String) : List String :=
  terms.takeWhile fun term => index.HasSource term

def termsOn (index : SearchIndex) (terms : List String) (doc : Nat) : List String :=
  (index.countedTerms terms).filter fun term => index.OnPage term doc

end DocSearch.SearchIndex
