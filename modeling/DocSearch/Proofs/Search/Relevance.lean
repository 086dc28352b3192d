import DocSearch.Answer.Ranking
import DocSearch.Proofs.Search.Results

/- The relevance that is shown for a score. As long as no weight is too far from zero, every sum and every
product on the way from the weights to the text is the exact one. -/
namespace DocSearch

namespace SearchIndex
variable {index : SearchIndex} {scorer : Scorer} {language : Language} {query : String} {limit : Nat}

/-- The sum for an object and a chunk as a whole number of any size. -/
def exactScore (scorer : Scorer) (object : SiteObject) (chunk : String) : Int :=
  (scorer.objectName (Text.lower object.fullname.toList) chunk.toList).toInt +
    (scorer.priority object.priority).toInt

theorem exactScore_le (moderate : scorer.Moderate) (object : SiteObject) (chunk : String) :
    (exactScore scorer object chunk).natAbs ≤ 2 * Scorer.weightBound := by
  have name := moderate.objectName (Text.lower object.fullname.toList) chunk.toList
  have priority := moderate.priority object.priority
  unfold exactScore
  omega

theorem exactScore_fits (moderate : scorer.Moderate) (object : SiteObject) (chunk : String) :
    FitsWord (exactScore scorer object chunk) := by
  have small := exactScore_le moderate object chunk
  have bound : 2 * Scorer.weightBound < 2 ^ 63 := by decide
  unfold FitsWord
  omega

theorem toInt_objectScore {object : SiteObject} {chunk : String}
    (fits : FitsWord (exactScore scorer object chunk)) :
    (objectScore scorer object chunk).toInt = exactScore scorer object chunk :=
  fits.toInt_add

theorem IsSource.weight_le (moderate : scorer.Moderate) {term : String} {postings : Postings}
    {weight : Scorer → Int64} (isSource : index.IsSource term postings weight) :
    (weight scorer).toInt.natAbs ≤ Scorer.weightBound := by
  cases isSource with
  | body => exact moderate ("term", scorer.term) (by simp [Scorer.weights])
  | title => exact moderate ("title", scorer.title) (by simp [Scorer.weights])
  | partialBody => exact moderate ("partial_term", scorer.partialTerm) (by simp [Scorer.weights])
  | partialTitle => exact moderate ("partial_title", scorer.partialTitle) (by simp [Scorer.weights])

/-- Of both kinds of results, one score is at most the sum of two weights. -/
theorem score_le_of_mem_search [Stemmers] (moderate : scorer.Moderate) {result : SearchResult}
    (member : result ∈ index.search scorer language query limit) :
    result.score.toInt.natAbs ≤ 2 * Scorer.weightBound := by
  have distinct := QueryTerms.parse_distinct language query
  cases kind : result.kind with
  | object =>
    have found := object_of_mem_search member kind
    obtain ⟨object, document, chunk, _, _, same⟩ := (objectResults_best distinct.objects found).1.1
    rw [same, toInt_objectScore (exactScore_fits moderate object chunk)]
    exact exactScore_le moderate object chunk
  | page =>
    have found := page_of_mem_search member kind
    obtain ⟨term, _, postings, weight, isSource, _, same⟩ :=
      (mem_pageResults distinct.search found).2.1.1
    have one := isSource.weight_le moderate
    rw [same]
    omega

end SearchIndex

namespace Answer
variable {results : List SearchResult}

def relevances (results : List SearchResult) : List Int64 :=
  results.map fun result => relevance (bestScore results) result.score

def rankedText (number : Nat) (result : SearchResult) (shown : Int64) : String :=
  lines ([s!"{number}. `{result.title}` ({resultKindName result.kind}) - relevance: {shown}%",
    "   " ++ resultLink result] ++
    (result.description.map ("   " ++ ·)).toList ++ [""])

def rankedTexts (rows : List (SearchResult × Int64)) : String :=
  String.join (rows.zipIdx.map fun (row, i) => rankedText (i + 1) row.1 row.2)

theorem resultText_eq (best : Int64) (number : Nat) (result : SearchResult) :
    resultText best number result = rankedText number result (relevance best result.score) := by
  unfold resultText rankedText
  dsimp only

theorem resultsText_eq (query : String) (results : List SearchResult) :
    resultsText query results =
      s!"Search results for '{query}':\n\n" ++ rankedTexts (results.zip (relevances results)) := by
  have rows : (results.zipIdx.map fun row => resultText (bestScore results) (row.2 + 1) row.1) =
      (results.zip (relevances results)).zipIdx.map fun row =>
        rankedText (row.2 + 1) row.1.1 row.1.2 := by
    rw [relevances, ← List.map_prod_left_eq_zip, List.zipIdx_map, List.map_map]
    apply List.map_congr_left
    intro row _
    simp only [Function.comp_apply, Prod.map_fst, Prod.map_snd, id_eq, resultText_eq]
  exact congrArg (s!"Search results for '{query}':\n\n" ++ String.join ·) rows

theorem bestScore_eq (results : List SearchResult) :
    IsGreatest {score | score ∈ 1 :: results.map (·.score)} (bestScore results) := by
  have run (done : List Int64) (best : Int64) (greatest : IsGreatest {score | score ∈ done} best) :
      IsGreatest {score | score ∈ done ++ results.map (·.score)}
        (results.foldl (fun best result => max best result.score) best) := by
    induction results generalizing done best with
    | nil => simpa using greatest
    | cons result rest ih =>
      have mapped : IsGreatest {score | score ∈ done.map id} best := by simpa using greatest
      have next := isGreatest_map_append id mapped result.score
      simpa using ih (done ++ [result.score]) (max best result.score) (by simpa using next)
  exact run [1] 1 (by simp)

theorem one_le_bestScore (results : List SearchResult) : 1 ≤ (bestScore results).toInt :=
  Int64.le_iff_toInt_le.1 ((bestScore_eq results).2 (by simp) : 1 ≤ bestScore results)

def percentage (best score : Int) : Int := min (max score 0 * 100 / best) 100

section
variable {best : Int} (positive : 1 ≤ best)
include positive

theorem percentage_bounds (score : Int) :
    0 ≤ percentage best score ∧ percentage best score ≤ 100 := by
  unfold percentage
  have quotient : 0 ≤ max score 0 * 100 / best := Int.ediv_nonneg (by omega) (by omega)
  omega

theorem percentage_mono {lower score : Int} (below : lower ≤ score) :
    percentage best lower ≤ percentage best score := by
  unfold percentage
  have quotients : max lower 0 * 100 / best ≤ max score 0 * 100 / best :=
    Int.ediv_le_ediv (by omega) (by omega)
  omega

theorem percentage_self : percentage best best = 100 := by
  unfold percentage
  rw [Int.max_eq_left (by omega), Int.mul_ediv_cancel_left 100 (by omega)]
  rfl

end

theorem percentage_of_not_positive {best score : Int} (low : score ≤ 0) :
    percentage best score = 0 := by
  unfold percentage
  rw [Int.max_eq_right low]
  simp

def Fits (score : Int64) : Prop := FitsWord ((max score 0).toInt * 100)

theorem toInt_relevance {best score : Int64} (positive : 1 ≤ best.toInt) (fits : Fits score) :
    (relevance best score).toInt = percentage best.toInt score.toInt := by
  have least : (max score 0).toInt = max score.toInt 0 := toInt_max score 0
  have product : (max score 0 * 100).toInt = max score.toInt 0 * 100 := by
    rw [← least]
    exact FitsWord.toInt_mul fits
  have numerator : 0 ≤ (max score 0 * 100).toInt := by
    rw [product]
    omega
  have quotient : (max score 0 * 100 / best).toInt = max score.toInt 0 * 100 / best.toInt := by
    rw [toInt_div_of_nonneg numerator (by omega), product]
  exact (toInt_min _ 100).trans (congrArg (min · 100) quotient)

section
variable (fits : ∀ result ∈ results, Fits result.score)
include fits

theorem toInt_relevance_of_mem {result : SearchResult} (member : result ∈ results) :
    (relevance (bestScore results) result.score).toInt =
      percentage (bestScore results).toInt result.score.toInt :=
  toInt_relevance (one_le_bestScore results) (fits result member)

theorem toInt_relevances : (relevances results).map Int64.toInt =
    results.map fun result => percentage (bestScore results).toInt result.score.toInt := by
  rw [relevances, List.map_map]
  exact List.map_congr_left fun result member => toInt_relevance_of_mem fits member

theorem relevances_bounds {shown : Int64} (member : shown ∈ relevances results) :
    0 ≤ shown ∧ shown ≤ 100 := by
  obtain ⟨result, inside, rfl⟩ := List.mem_map.1 member
  rw [Int64.le_iff_toInt_le, Int64.le_iff_toInt_le, toInt_relevance_of_mem fits inside]
  exact percentage_bounds (one_le_bestScore results) result.score.toInt

theorem relevances_of_not_positive (low : ∀ result ∈ results, result.score ≤ 0) {shown : Int64}
    (member : shown ∈ relevances results) : shown = 0 := by
  obtain ⟨result, inside, rfl⟩ := List.mem_map.1 member
  apply Int64.toInt_inj.1
  rw [toInt_relevance_of_mem fits inside]
  exact percentage_of_not_positive (Int64.le_iff_toInt_le.1 (low result inside))

variable (sorted : results.Pairwise fun a b => b.score ≤ a.score)
include sorted

theorem relevances_descend : (relevances results).Pairwise (· ≥ ·) := by
  apply List.pairwise_map.2
  apply sorted.imp_of_mem
  intro a b first second below
  apply Int64.le_iff_toInt_le.2
  rw [toInt_relevance_of_mem fits first, toInt_relevance_of_mem fits second]
  exact percentage_mono (one_le_bestScore results) (Int64.le_iff_toInt_le.1 below)

theorem head?_relevances (positive : ∃ result ∈ results, 0 < result.score) :
    (relevances results).head? = some 100 := by
  obtain ⟨result, member, above⟩ := positive
  cases results with
  | nil => cases member
  | cons first rest =>
    have most : ∀ other ∈ first :: rest, other.score ≤ first.score := by
      intro other inside
      rcases List.mem_cons.1 inside with same | later
      · rw [same]
      · exact (List.pairwise_cons.1 sorted).1 other later
    have least : (0 : Int64) < first.score := lt_of_lt_of_le above (most result member)
    have best : bestScore (first :: rest) = first.score := by
      apply (bestScore_eq (first :: rest)).unique
      refine ⟨by simp, ?_⟩
      intro score listed
      rcases List.mem_cons.1 listed with rfl | later
      · exact Int64.le_iff_toInt_le.2 (Int64.lt_iff_toInt_lt.1 least)
      · obtain ⟨other, inside, rfl⟩ := List.mem_map.1 later
        exact most other inside
    have shown : relevance (bestScore (first :: rest)) first.score = 100 := by
      apply Int64.toInt_inj.1
      rw [toInt_relevance_of_mem fits (by simp), best]
      exact percentage_self (Int64.lt_iff_toInt_lt.1 least)
    rw [relevances, List.map_cons, List.head?_cons, shown]

end

end Answer

namespace SearchIndex
variable {index : SearchIndex} {scorer : Scorer} {language : Language} {query : String} {limit : Nat}

theorem scores_descend [Stemmers] (index : SearchIndex) (scorer : Scorer) (language : Language)
    (query : String) (limit : Nat) :
    (index.search scorer language query limit).Pairwise fun a b => b.score ≤ a.score := by
  rw [search_eq]
  apply ((SearchResult.ranksBefore_sorts.pairwise _).sublist (List.take_sublist _ _)).imp
  intro a b ranks
  apply not_lt.1
  intro higher
  exact SearchResult.ranksBefore_iff.1 ranks (Or.inl higher)

theorem fits_of_mem_search [Stemmers] (moderate : scorer.Moderate) {result : SearchResult}
    (member : result ∈ index.search scorer language query limit) : Answer.Fits result.score := by
  have score := score_le_of_mem_search moderate member
  have least : (max result.score 0).toInt = max result.score.toInt 0 := toInt_max result.score 0
  have bound : 2 * Scorer.weightBound * 100 < 2 ^ 63 := by decide
  unfold Answer.Fits FitsWord
  omega

/-- From the weights to the shown percentages. The sums are those for an object and a chunk, the
products those for a result; each is the exact one, and so is each percentage. The text shows one
relevance for each result. -/
theorem relevances_of_search [Stemmers] (moderate : scorer.Moderate) :
    let results := index.search scorer language query limit
    let shown := Answer.relevances results
    (∀ object chunk, FitsWord (exactScore scorer object chunk) ∧
      (objectScore scorer object chunk).toInt = exactScore scorer object chunk) ∧
      (∀ result ∈ results, FitsWord ((max result.score 0).toInt * 100)) ∧
      (shown.map Int64.toInt = results.map fun result =>
        Answer.percentage (Answer.bestScore results).toInt result.score.toInt) ∧
      Answer.resultsText query results = s!"Search results for '{query}':\n\n" ++
        Answer.rankedTexts (results.zip shown) ∧
      (∀ relevance ∈ shown, 0 ≤ relevance ∧ relevance ≤ 100) ∧
      shown.Pairwise (· ≥ ·) ∧
      ((∃ result ∈ results, 0 < result.score) → shown.head? = some 100) ∧
      ((∀ result ∈ results, result.score ≤ 0) → ∀ relevance ∈ shown, relevance = 0) := by
  intro results shown
  have sorted := scores_descend index scorer language query limit
  have fits : ∀ result ∈ results, Answer.Fits result.score :=
    fun result member => fits_of_mem_search moderate member
  refine ⟨?_, fits, Answer.toInt_relevances fits, Answer.resultsText_eq query results, ?_,
    Answer.relevances_descend fits sorted, Answer.head?_relevances fits sorted, ?_⟩
  · intro object chunk
    have sum := exactScore_fits moderate object chunk
    exact ⟨sum, toInt_objectScore sum⟩
  · exact fun relevance member => Answer.relevances_bounds fits member
  · exact fun low relevance member => Answer.relevances_of_not_positive fits low member

theorem relevances_of_search_largest :
    let largest : Int64 := 46116860184273879
    let scorer := { Scorer.default with objNameMatch := largest, objPrioNormal := largest }
    let results := smallSite.search scorer .english "cell" 3
    scorer.Moderate ∧ results.map (·.score.toInt) = [2 * 46116860184273879] ∧
      (∀ result ∈ results, FitsWord ((max result.score 0).toInt * 100)) ∧
      (Answer.relevances results).head? = some 100 := by
  intro largest scorer results
  have moderate : scorer.Moderate := by decide
  have scores : results.map (·.score.toInt) = [2 * 46116860184273879] := by decide +kernel
  obtain ⟨_, products, _, _, _, _, first, _⟩ :=
    @relevances_of_search smallSite scorer .english "cell" 3 _ moderate
  refine ⟨moderate, scores, products, first ?_⟩
  have member : 2 * 46116860184273879 ∈ results.map (·.score.toInt) := by
    rw [scores]
    exact List.mem_singleton_self _
  obtain ⟨result, inside, same⟩ := List.mem_map.1 member
  exact ⟨result, inside, Int64.lt_iff_toInt_lt.2 (by rw [same]; decide)⟩

end SearchIndex
end DocSearch
