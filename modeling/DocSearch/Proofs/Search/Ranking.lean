import DocSearch.Proofs.Search.Weights
import DocSearch.Proofs.StableSort
import DocSearch.Search.Engine

/- The order of search results: a result stands by its score, its title in lowercase and its kind, and
a search is the beginning of a stable sort of all that is found. -/
namespace DocSearch

theorem ResultKind.order_injective {a b : ResultKind} (same : a.order = b.order) : a = b := by
  cases a <;> cases b <;> first | rfl | cases same

structure Standing where
  score : Int64
  title : String
  kind : ResultKind
deriving DecidableEq

namespace Standing

def Above (a b : Standing) : Prop :=
  b.score < a.score ∨ a.score = b.score ∧
    (a.title < b.title ∨ a.title = b.title ∧ a.kind.order < b.kind.order)

theorem Above.trans {a b c : Standing} (first : a.Above b) (second : b.Above c) : a.Above c := by
  rcases first with score | ⟨sameScore, title | ⟨sameTitle, kind⟩⟩ <;>
    rcases second with score' | ⟨sameScore', title' | ⟨sameTitle', kind'⟩⟩
  · exact Or.inl (score'.trans score)
  · exact Or.inl (sameScore' ▸ score)
  · exact Or.inl (sameScore' ▸ score)
  · exact Or.inl (sameScore ▸ score')
  · exact Or.inr ⟨sameScore.trans sameScore', Or.inl (String.lt_trans title title')⟩
  · exact Or.inr ⟨sameScore.trans sameScore', Or.inl (sameTitle' ▸ title)⟩
  · exact Or.inl (sameScore ▸ score')
  · exact Or.inr ⟨sameScore.trans sameScore', Or.inl (sameTitle ▸ title')⟩
  · exact Or.inr ⟨sameScore.trans sameScore', Or.inr ⟨sameTitle.trans sameTitle', by omega⟩⟩

theorem not_above_self (a : Standing) : ¬ a.Above a := by
  rintro (score | ⟨_, title | ⟨_, kind⟩⟩)
  · exact lt_irrefl _ score
  · exact String.lt_irrefl _ title
  · exact Nat.lt_irrefl _ kind

theorem above_or_eq_or_above (a b : Standing) : a.Above b ∨ a = b ∨ b.Above a := by
  obtain ⟨score, title, kind⟩ := a
  obtain ⟨score', title', kind'⟩ := b
  rcases lt_trichotomy score score' with lower | rfl | higher
  · exact Or.inr (Or.inr (Or.inl lower))
  · by_cases before : title < title'
    · exact Or.inl (Or.inr ⟨rfl, Or.inl before⟩)
    · by_cases after : title' < title
      · exact Or.inr (Or.inr (Or.inr ⟨rfl, Or.inl after⟩))
      · cases String.le_antisymm (String.not_lt.1 after) (String.not_lt.1 before)
        rcases Nat.lt_trichotomy kind.order kind'.order with first | same | second
        · exact Or.inl (Or.inr ⟨rfl, Or.inr ⟨rfl, first⟩⟩)
        · exact Or.inr (Or.inl (by rw [ResultKind.order_injective same]))
        · exact Or.inr (Or.inr (Or.inr ⟨rfl, Or.inr ⟨rfl, second⟩⟩))
  · exact Or.inl (Or.inl higher)

theorem above_or_eq {a b : Standing} (not : ¬ b.Above a) : a.Above b ∨ a = b := by
  rcases above_or_eq_or_above a b with above | same | below
  · exact Or.inl above
  · exact Or.inr same
  · exact absurd below not

end Standing

namespace SearchResult
open Standing

def standing (result : SearchResult) : Standing :=
  ⟨result.score, Text.lowercase result.title, result.kind⟩

theorem ranksBefore_iff {a b : SearchResult} :
    a.ranksBefore b = true ↔ ¬ b.standing.Above a.standing := by
  unfold ranksBefore
  dsimp only
  split
  · rename_i different
    simp only [Above, standing, decide_eq_true_eq]
    constructor
    · rintro higher (lower | ⟨same, _⟩)
      · exact lt_asymm higher lower
      · exact different same.symm
    · exact fun notBelow => (lt_or_gt_of_ne different).resolve_left fun below => notBelow (Or.inl below)
  · rename_i same
    have same : a.score = b.score := Decidable.not_not.1 same
    dsimp only [Above, standing]
    rw [same]
    split
    · rename_i different
      rw [decide_eq_true_eq]
      constructor
      · rintro before (score | ⟨_, after | ⟨sameTitle, _⟩⟩)
        · exact lt_irrefl _ score
        · exact String.lt_irrefl _ (String.lt_trans before after)
        · exact different sameTitle.symm
      · intro notBelow
        apply Decidable.byContradiction
        intro notBefore
        have after : ¬ Text.lowercase b.title < Text.lowercase a.title :=
          fun after => notBelow (Or.inr ⟨rfl, Or.inl after⟩)
        exact different (String.le_antisymm (String.not_lt.1 after) (String.not_lt.1 notBefore))
    · rename_i sameTitle
      have sameTitle : Text.lowercase a.title = Text.lowercase b.title := Decidable.not_not.1 sameTitle
      rw [decide_eq_true_eq, sameTitle]
      constructor
      · rintro order (score | ⟨_, after | ⟨_, below⟩⟩)
        · exact lt_irrefl _ score
        · exact String.lt_irrefl _ after
        · omega
      · intro notBelow
        apply Nat.not_lt.1
        exact fun below => notBelow (Or.inr ⟨rfl, Or.inr ⟨rfl, below⟩⟩)

theorem ranksBefore_sorts : SortsBy ranksBefore standing where
  trans a b c first second := by
    rw [ranksBefore_iff] at *
    intro above
    rcases above_or_eq first with below | same
    · exact second (above.trans below)
    · exact second (same ▸ above)
  total a b := by
    rw [Bool.or_eq_true, ranksBefore_iff, ranksBefore_iff]
    by_cases above : b.standing.Above a.standing
    · exact Or.inr fun below => not_above_self _ (above.trans below)
    · exact Or.inl above
  antisymm a b first second := by
    rw [ranksBefore_iff] at *
    rcases above_or_eq first with above | same
    · exact absurd above second
    · exact same
  tie a b same := by
    rw [ranksBefore_iff, same]
    exact not_above_self _

end SearchResult

namespace SearchIndex
variable {index : SearchIndex} {scorer : Scorer} {language : Language} {query : String} {limit : Nat}

def foundFrom (index : SearchIndex) (scorer : Scorer) (terms : QueryTerms) (tallies : List Tally) :
    List SearchResult :=
  index.objectResults scorer terms ++ tallies.filterMap (index.pageResult? terms)

/-- All that is found for a query, before the results are ranked and cut. -/
def found [Stemmers] (index : SearchIndex) (scorer : Scorer) (language : Language) (query : String) :
    List SearchResult :=
  let terms := QueryTerms.parse language query
  index.foundFrom scorer terms (index.countWords scorer terms.search [])

/-- The search that takes the pages in the order of these tallies. -/
def searchFrom [Stemmers] (index : SearchIndex) (scorer : Scorer) (language : Language) (query : String)
    (limit : Nat) (tallies : List Tally) : List SearchResult :=
  let terms := QueryTerms.parse language query
  if terms.isEmpty then []
  else SearchResult.rank (index.objectResults scorer terms)
    (tallies.filterMap (index.pageResult? terms)) limit

theorem search_eq_searchFrom [Stemmers] : index.search scorer language query limit =
    index.searchFrom scorer language query limit
      (index.countWords scorer (QueryTerms.parse language query).search []) := rfl

theorem foundFrom_of_isEmpty {terms : QueryTerms} (empty : terms.isEmpty = true)
    {tallies : List Tally} (order : tallies.Perm (index.countWords scorer terms.search [])) :
    index.foundFrom scorer terms tallies = [] := by
  obtain ⟨search, excluded, objects⟩ := terms
  simp only [QueryTerms.isEmpty, Bool.and_eq_true, List.isEmpty_iff] at empty
  obtain ⟨rfl, rfl⟩ := empty
  rw [List.perm_nil.1 order]
  rfl

section
variable [Stemmers] {tallies : List Tally}
  (order : tallies.Perm (index.countWords scorer (QueryTerms.parse language query).search []))
include order

theorem foundFrom_perm_found :
    (index.foundFrom scorer (QueryTerms.parse language query) tallies).Perm
      (index.found scorer language query) :=
  (order.filterMap _).append_left _

theorem searchFrom_eq : index.searchFrom scorer language query limit tallies =
    ((index.foundFrom scorer (QueryTerms.parse language query) tallies).mergeSort
      SearchResult.ranksBefore).take limit := by
  unfold searchFrom
  dsimp only
  split
  -- The query without terms is no exception: nothing is found for it anyway.
  · rename_i empty
    rw [foundFrom_of_isEmpty empty order]
    simp
  · rfl

theorem searchFrom_perm_found (unlimited : (index.found scorer language query).length ≤ limit) :
    (index.searchFrom scorer language query limit tallies).Perm
      (index.found scorer language query) := by
  have sorted := (List.mergeSort_perm _ SearchResult.ranksBefore).trans (foundFrom_perm_found order)
  rw [searchFrom_eq order, List.take_of_length_le (sorted.length_eq ▸ unlimited)]
  exact sorted

end

theorem search_eq [Stemmers] : index.search scorer language query limit =
    ((index.found scorer language query).mergeSort SearchResult.ranksBefore).take limit :=
  searchFrom_eq (List.Perm.refl _)

theorem search_perm_found [Stemmers] (unlimited : (index.found scorer language query).length ≤ limit) :
    (index.search scorer language query limit).Perm (index.found scorer language query) :=
  searchFrom_perm_found (List.Perm.refl _) unlimited

theorem mem_found_of_mem_search [Stemmers] {result : SearchResult}
    (member : result ∈ index.search scorer language query limit) :
    result ∈ index.found scorer language query := by
  rw [search_eq] at member
  exact (List.mergeSort_perm _ _).mem_iff.1 (List.mem_of_mem_take member)

end SearchIndex
end DocSearch
