import Mathlib.Data.Finset.Card
import Mathlib.Data.Finset.Dedup
import Mathlib.Data.List.Dedup
import DocSearch.Answer.Lookup
import DocSearch.Proofs.KeyMap
import DocSearch.Stem.Snowball

/- The candidates that are suggested for a text that was not found: which ones they are, in which
order, and when one of them is listed twice. -/
namespace DocSearch
namespace Suggestion
variable {similarity : String → Magnitude} {candidates : List String} {limit : Nat}

/-- The more similar text comes first, then the smaller one. -/
def Closer (similarity : String → Magnitude) (a b : String) : Prop :=
  similarity b < similarity a ∨ similarity a = similarity b ∧ a < b

instance (a b : String) : Decidable (Closer similarity a b) :=
  inferInstanceAs (Decidable (_ ∨ _))

def eligible (similarity : String → Magnitude) (candidates : List String) : Finset String :=
  candidates.toFinset.filter (threshold < similarity ·)

def closerThan (similarity : String → Magnitude) (candidates : List String) (text : String) :
    Finset String :=
  (eligible similarity candidates).filter (Closer similarity · text)

/-- The best distinct candidates above the threshold, as many as there are up to the limit. -/
structure ListsBest (similarity : String → Magnitude) (candidates : List String) (limit : Nat)
    (texts : List String) : Prop where
  size : texts.length = min limit (eligible similarity candidates).card
  distinct : texts.Nodup
  ordered : texts.Pairwise (Closer similarity)
  best : ∀ text ∈ texts, text ∈ eligible similarity candidates ∧
    ∀ other ∈ closerThan similarity candidates text, other ∈ texts

theorem mem_eligible {text : String} : text ∈ eligible similarity candidates ↔
    text ∈ candidates ∧ threshold < similarity text := by
  simp [eligible]

theorem mem_closerThan {text other : String} : other ∈ closerThan similarity candidates text ↔
    other ∈ eligible similarity candidates ∧ Closer similarity other text := by
  simp [closerThan]

theorem not_closer_self (text : String) : ¬ Closer similarity text text := by
  rintro (more | ⟨_, less⟩)
  · exact Nat.lt_irrefl _ more
  · exact String.lt_irrefl _ less

theorem Closer.asymm {a b : String} (closer : Closer similarity a b) : ¬ Closer similarity b a := by
  intro back
  rcases closer with more | ⟨same, less⟩ <;> rcases back with more' | ⟨same', less'⟩
  · exact Nat.lt_asymm more more'
  · exact Nat.ne_of_lt more same'
  · exact Nat.ne_of_lt more' same
  · exact String.lt_irrefl _ (String.lt_trans less less')

def ranked (similarity : String → Magnitude) (candidates : List String) : List String :=
  (((candidates.map fun text => Suggestion.mk text (similarity text)).filter
    (threshold < ·.similarity)).mergeSort ranksBefore).map (·.text)

theorem texts_rank (similarity : String → Magnitude) (candidates : List String) (limit : Nat) :
    (rank similarity candidates limit).map (·.text) = (ranked similarity candidates).take limit := by
  rw [rank, ranked, List.map_take]

theorem ranked_perm (similarity : String → Magnitude) (candidates : List String) :
    (ranked similarity candidates).Perm (candidates.filter (threshold < similarity ·)) := by
  have sorted := (List.mergeSort_perm ((candidates.map fun text =>
    Suggestion.mk text (similarity text)).filter (threshold < ·.similarity)) ranksBefore).map (·.text)
  rw [List.filter_map, List.map_map] at sorted
  simpa [ranked, List.filter_map, Function.comp_def] using sorted

theorem ranksBefore_iff {a b : Suggestion} : a.ranksBefore b = true ↔
    b.similarity < a.similarity ∨ a.similarity = b.similarity ∧ a.text ≤ b.text := by
  simp [ranksBefore]

theorem ranksBefore_trans (a b c : Suggestion) (first : a.ranksBefore b = true)
    (second : b.ranksBefore c = true) : a.ranksBefore c = true := by
  rw [ranksBefore_iff] at *
  rcases first with more | ⟨same, le⟩ <;> rcases second with more' | ⟨same', le'⟩
  · exact Or.inl (Nat.lt_trans more' more)
  · exact Or.inl (same' ▸ more)
  · exact Or.inl (same ▸ more')
  · exact Or.inr ⟨same.trans same', String.le_trans le le'⟩

theorem ranksBefore_total (a b : Suggestion) : (a.ranksBefore b || b.ranksBefore a) = true := by
  rw [Bool.or_eq_true, ranksBefore_iff, ranksBefore_iff]
  rcases Nat.lt_trichotomy a.similarity b.similarity with less | same | more
  · exact Or.inr (Or.inl less)
  · rcases String.le_total a.text b.text with le | ge
    · exact Or.inl (Or.inr ⟨same, le⟩)
    · exact Or.inr (Or.inr ⟨same.symm, ge⟩)
  · exact Or.inl (Or.inl more)

theorem ranked_pairwise (similarity : String → Magnitude) (candidates : List String) :
    (ranked similarity candidates).Pairwise fun a b => a = b ∨ Closer similarity a b := by
  apply List.pairwise_map.2
  apply (List.pairwise_mergeSort ranksBefore_trans ranksBefore_total _).imp_of_mem
  intro a b first second before
  have measured {s : Suggestion} (member : s ∈ ((candidates.map fun text =>
      Suggestion.mk text (similarity text)).filter (threshold < ·.similarity)).mergeSort ranksBefore) :
      s.similarity = similarity s.text := by
    have inside := (List.mem_filter.1 (List.mem_mergeSort.1 member)).1
    obtain ⟨text, _, same⟩ := List.mem_map.1 inside
    rw [← same]
  rw [ranksBefore_iff, measured first, measured second] at before
  rcases before with more | ⟨same, le⟩
  · exact Or.inr (Or.inl more)
  · by_cases equal : a.text = b.text
    · exact Or.inl equal
    · refine Or.inr (Or.inr ⟨same, ?_⟩)
      exact Decidable.byContradiction fun notLess => equal (String.le_antisymm le (String.not_lt.1 notLess))

theorem mem_ranked {text : String} :
    text ∈ ranked similarity candidates ↔ text ∈ eligible similarity candidates := by
  rw [(ranked_perm similarity candidates).mem_iff, List.mem_filter, mem_eligible, decide_eq_true_eq]

theorem toFinset_ranked (similarity : String → Magnitude) (candidates : List String) :
    (ranked similarity candidates).toFinset = eligible similarity candidates := by
  ext text
  rw [List.mem_toFinset, mem_ranked]

theorem count_ranked {text : String} (above : threshold < similarity text) :
    (ranked similarity candidates).count text = candidates.count text := by
  rw [(ranked_perm similarity candidates).count_eq, List.count_filter (by simpa using above)]

theorem closer_listed {text other : String} (listed : text ∈ (ranked similarity candidates).take limit)
    (closer : other ∈ closerThan similarity candidates text) :
    other ∈ (ranked similarity candidates).take limit := by
  obtain ⟨eligible, before⟩ := mem_closerThan.1 closer
  have member := mem_ranked.2 eligible
  have pairwise := ranked_pairwise similarity candidates
  rw [← List.take_append_drop limit (ranked similarity candidates)] at member pairwise
  rcases List.mem_append.1 member with inside | outside
  · exact inside
  · rcases (List.pairwise_append.1 pairwise).2.2 text listed other outside with same | after
    · rw [same] at before
      exact absurd before (not_closer_self other)
    · exact absurd before after.asymm

/-- The listed candidates are the best ones as soon as none of them is listed twice. -/
theorem listsBest_iff : ListsBest similarity candidates limit
      ((ranked similarity candidates).take limit) ↔
    ((ranked similarity candidates).take limit).Nodup := by
  constructor
  · intro best
    exact best.distinct
  · intro distinct
    refine ⟨?_, distinct, ?_, ?_⟩
    · have cards := List.toFinset_card_of_nodup distinct
      have below : ((ranked similarity candidates).take limit).toFinset.card ≤
          (eligible similarity candidates).card := by
        rw [← toFinset_ranked]
        apply Finset.card_le_card
        intro text member
        exact List.mem_toFinset.2 (List.mem_of_mem_take (List.mem_toFinset.1 member))
      have most : (eligible similarity candidates).card ≤ (ranked similarity candidates).length := by
        rw [← toFinset_ranked]
        exact List.toFinset_card_le _
      rw [List.length_take] at *
      omega
    · have ordered := (ranked_pairwise similarity candidates).sublist (List.take_sublist limit _)
      apply (List.Pairwise.and ordered distinct).imp
      intro a b both
      exact both.1.resolve_left both.2
    · intro text listed
      refine ⟨mem_ranked.1 (List.mem_of_mem_take listed), ?_⟩
      intro other closer
      exact closer_listed listed closer

theorem card_insert_closerThan (similarity : String → Magnitude) (candidates : List String)
    (text : String) : (insert text (closerThan similarity candidates text)).card =
      (closerThan similarity candidates text).card + 1 := by
  apply Finset.card_insert_of_notMem
  intro member
  exact not_closer_self text (mem_closerThan.1 member).2

/-- Of a text that is there twice and listed once at most, one is behind the cut, so only closer ones and
itself stand before it. -/
theorem limit_le_of_nodup (distinct : ((ranked similarity candidates).take limit).Nodup)
    {text : String} (member : text ∈ eligible similarity candidates)
    (twice : 2 ≤ candidates.count text) :
    limit ≤ (closerThan similarity candidates text).card + 1 := by
  rw [← count_ranked (mem_eligible.1 member).2,
    ← List.take_append_drop limit (ranked similarity candidates), List.count_append] at twice
  have once := List.nodup_iff_count_le_one.1 distinct text
  have behind : text ∈ (ranked similarity candidates).drop limit := List.count_pos_iff.1 (by omega)
  have pairwise := ranked_pairwise similarity candidates
  rw [← List.take_append_drop limit (ranked similarity candidates)] at pairwise
  have inside : ((ranked similarity candidates).take limit).toFinset ⊆
      insert text (closerThan similarity candidates text) := by
    intro other listed
    have listed := List.mem_toFinset.1 listed
    rcases (List.pairwise_append.1 pairwise).2.2 other listed text behind with same | closer
    · rw [same]
      exact Finset.mem_insert_self _ _
    · have eligible := mem_ranked.1 (List.mem_of_mem_take listed)
      exact Finset.mem_insert_of_mem (mem_closerThan.2 ⟨eligible, closer⟩)
  have few := Finset.card_le_card inside
  have more := List.length_pos_of_mem behind
  rw [List.toFinset_card_of_nodup distinct, card_insert_closerThan, List.length_take] at few
  rw [List.length_drop] at more
  omega

theorem card_lt_of_listed_twice {text : String}
    (twice : 2 ≤ ((ranked similarity candidates).take limit).count text) :
    (closerThan similarity candidates text).card + 1 < limit := by
  have listed : text ∈ (ranked similarity candidates).take limit := List.count_pos_iff.1 (by omega)
  have inside : insert text (closerThan similarity candidates text) ⊆
      (((ranked similarity candidates).take limit).erase text).toFinset := by
    intro other chosen
    rw [List.mem_toFinset]
    rcases Finset.mem_insert.1 chosen with same | closer
    · rw [same]
      apply List.count_pos_iff.1
      rw [List.count_erase_self]
      omega
    · have apart : other ≠ text := by
        intro same
        rw [same] at closer
        exact not_closer_self text (mem_closerThan.1 closer).2
      exact (List.mem_erase_of_ne apart).2 (closer_listed listed closer)
  have few := (Finset.card_le_card inside).trans (List.toFinset_card_le _)
  have some := List.length_pos_of_mem listed
  rw [card_insert_closerThan, List.length_erase_of_mem listed] at few
  rw [List.length_take] at few some
  omega

/-- A text is listed twice if it is there twice and enough places are left for it. -/
theorem nodup_listed_iff : ((ranked similarity candidates).take limit).Nodup ↔
    ∀ text ∈ eligible similarity candidates, 2 ≤ candidates.count text →
      limit ≤ (closerThan similarity candidates text).card + 1 := by
  constructor
  · intro distinct text member twice
    exact limit_le_of_nodup distinct member twice
  · intro room
    rw [List.nodup_iff_count_le_one]
    intro text
    by_contra twice
    have few := @card_lt_of_listed_twice similarity candidates limit text (by omega)
    have listed : text ∈ (ranked similarity candidates).take limit :=
      List.count_pos_iff.1 (by omega)
    have member := mem_ranked.1 (List.mem_of_mem_take listed)
    have counted := (List.take_sublist limit (ranked similarity candidates)).count_le text
    rw [count_ranked (mem_eligible.1 member).2] at counted
    have enough := room text member (by omega)
    omega

end Suggestion

namespace Answer
open Suggestion

def closestTerms (index : SearchIndex) (similarity : String → Magnitude) : List String :=
  (rank similarity (indexedTerms index) suggestionLimit).map (·.text)

def fullnames (index : SearchIndex) : List String := index.siteObjects.map (·.fullname)

def closestNames (index : SearchIndex) (similarity : String → Magnitude) : List String :=
  (rank similarity (fullnames index) suggestionLimit).map (·.text)

def suggestionLines (texts : List String) : String :=
  if texts.isEmpty then ""
  else lines (["", "Did you mean one of these?"] ++ texts.map fun text => "• `" ++ text ++ "`")

theorem didYouMean_eq (suggestions : List Suggestion) :
    didYouMean suggestions = suggestionLines (suggestions.map (·.text)) := by
  unfold didYouMean suggestionLines
  rw [List.isEmpty_map, List.map_map]
  rfl

theorem count_keys {α : Type} (map : KeyMap α) (key : String) :
    map.keys.count key = if map.contains key then 1 else 0 := by
  have distinct : map.keys.Nodup := map.ascending.keys_nodup
  rw [List.Nodup.count distinct]
  simp only [KeyMap.contains_iff]

theorem two_le_count_indexedTerms {index : SearchIndex} {term : String} :
    2 ≤ (indexedTerms index).count term ↔
      (index.bodyPostings? term).isSome = true ∧ (index.titlePostings? term).isSome = true := by
  have titles : ((index.titleterms.map KeyMap.keys).getD []).count term =
      if (index.titlePostings? term).isSome then 1 else 0 := by
    unfold SearchIndex.titlePostings?
    cases index.titleterms with
    | none => rfl
    | some terms => exact count_keys terms term
  have body : index.terms.keys.count term = if (index.bodyPostings? term).isSome then 1 else 0 :=
    count_keys index.terms term
  rw [indexedTerms, List.count_append, titles, body]
  cases (index.bodyPostings? term).isSome <;> cases (index.titlePostings? term).isSome <;> simp

theorem count_fullnames (index : SearchIndex) (name : String) :
    (fullnames index).count name = (index.resolveObject name).length := by
  rw [fullnames, SearchIndex.resolveObject, List.count, List.countP_map, List.countP_eq_length_filter]
  rfl

theorem lookupTerm_missing [Stemmers] {index : SearchIndex} {language : Language} {term : String}
    (missing : termKey? index language term = none) (titlesOnly : Bool) :
    lookupTerm index language term titlesOnly = s!"Term '{term}' is not in the index.\n" ++
      suggestionLines (closestTerms index fun text =>
        Similarity.jaroWinkler (Text.lowercase term).toList text.toList) := by
  unfold lookupTerm
  rw [missing]
  dsimp only
  rw [didYouMean_eq]
  rfl

def NamesNothing (index : SearchIndex) (name : String) (context : Option Namespace) : Prop :=
  index.resolveObject name = [] ∧
    ∀ ns objects, index.resolveConf? name none context = some (ns, objects) → objects = []

theorem resolveObject_missing {index : SearchIndex} {name : String} {context : Option String}
    {read : Option Namespace} (readable : contextOf context = .ok read)
    (missing : NamesNothing index (String.ofList (Text.trim name.toList)) read) :
    ∃ resolved, resolveObject index name context =
      .ok (noObjectText index (String.ofList (Text.trim name.toList)) resolved) := by
  obtain ⟨unnamed, unresolved⟩ := missing
  unfold resolveObject
  dsimp only
  rw [unnamed, readable]
  dsimp only [bind, Except.bind, pure, Except.pure]
  split
  · exact ⟨none, rfl⟩
  · rename_i ns objects found
    rw [unresolved ns objects found]
    exact ⟨_, rfl⟩

def resolvedNote : Option String → String
  | some resolved => s!"(resolved as configuration reference '{resolved}')\n"
  | none => ""

theorem noObjectText_eq (index : SearchIndex) (name : String) (resolved : Option String) :
    noObjectText index name resolved = s!"No object named '{name}' found.\n" ++
      resolvedNote resolved ++ suggestionLines
        (closestNames index fun text => Similarity.jaroWinkler name.toList text.toList) := by
  unfold noObjectText closestNames fullnames suggest
  rw [didYouMean_eq]
  cases resolved <;> rfl

/-- Whatever the measure of similarity, the suggestions are the best distinct candidates unless one of
those that are there twice has room for both: a term of both maps, or the full name of two objects,
with fewer than four better candidates. These lists are what the answers show. -/
theorem suggestions_best_iff [Stemmers] (index : SearchIndex) :
    (∀ similarity, ListsBest similarity (indexedTerms index) 5 (closestTerms index similarity) ↔
      ∀ term, (index.bodyPostings? term).isSome → (index.titlePostings? term).isSome →
        threshold < similarity term →
          4 ≤ (closerThan similarity (indexedTerms index) term).card) ∧
    (∀ similarity, ListsBest similarity (fullnames index) 5 (closestNames index similarity) ↔
      ∀ name, 2 ≤ (index.resolveObject name).length → threshold < similarity name →
        4 ≤ (closerThan similarity (fullnames index) name).card) ∧
    (∀ language term titlesOnly, termKey? index language term = none →
      lookupTerm index language term titlesOnly = s!"Term '{term}' is not in the index.\n" ++
        suggestionLines (closestTerms index fun text =>
          Similarity.jaroWinkler (Text.lowercase term).toList text.toList)) ∧
    ∀ name context read, contextOf context = .ok read →
      NamesNothing index (String.ofList (Text.trim name.toList)) read →
        let trimmed := String.ofList (Text.trim name.toList)
        ∃ resolved, resolveObject index name context =
          .ok (s!"No object named '{trimmed}' found.\n" ++ resolvedNote resolved ++
            suggestionLines (closestNames index fun text =>
              Similarity.jaroWinkler trimmed.toList text.toList)) := by
  refine ⟨?_, ?_, ?_, ?_⟩
  · intro similarity
    rw [closestTerms, texts_rank, suggestionLimit, listsBest_iff, nodup_listed_iff]
    constructor
    · intro room term body title above
      have twice := two_le_count_indexedTerms.2 ⟨body, title⟩
      have member : term ∈ indexedTerms index := List.count_pos_iff.1 (by omega)
      have := room term (mem_eligible.2 ⟨member, above⟩) twice
      omega
    · intro room term eligible twice
      have both := two_le_count_indexedTerms.1 twice
      have := room term both.1 both.2 (mem_eligible.1 eligible).2
      omega
  · intro similarity
    rw [closestNames, texts_rank, suggestionLimit, listsBest_iff, nodup_listed_iff]
    constructor
    · intro room name twice above
      rw [← count_fullnames] at twice
      have member : name ∈ fullnames index := List.count_pos_iff.1 (by omega)
      have := room name (mem_eligible.2 ⟨member, above⟩) twice
      omega
    · intro room name eligible twice
      rw [count_fullnames] at twice
      have := room name twice (mem_eligible.1 eligible).2
      omega
  · intro language term titlesOnly missing
    exact lookupTerm_missing missing titlesOnly
  · intro name context read readable missing trimmed
    obtain ⟨resolved, same⟩ := resolveObject_missing readable missing
    exact ⟨resolved, same.trans (congrArg _ (noObjectText_eq index trimmed resolved))⟩

def tablesSite : SearchIndex where
  docnames := ["a"]
  filenames := none
  titles := ["Tables"]
  terms := .ofList [("tabl", .single 0)]
  titleterms := some (.ofList [("tabl", .single 0)])
  objects := none
  objtypes := none
  objnames := none
  envversion := none
  extra := .empty

theorem term_suggested_twice :
    let term := "tabel"
    let similarity := fun text : String => Similarity.jaroWinkler term.toList text.toList
    lookupTerm tablesSite .english term false =
        s!"Term '{term}' is not in the index.\n" ++
          suggestionLines (closestTerms tablesSite similarity) ∧
      closestTerms tablesSite similarity = ["tabl", "tabl"] ∧
      ¬ ListsBest similarity (indexedTerms tablesSite) 5 (closestTerms tablesSite similarity) := by
  intro term similarity
  have missing : termKey? tablesSite .english term = none := by decide +kernel
  have lower : Text.lowercase term = term := by decide +kernel
  have kept : (indexedTerms tablesSite).filter (threshold < similarity ·) =
      List.replicate 2 "tabl" := by decide +kernel
  have sorted := ranked_perm similarity (indexedTerms tablesSite)
  have twice : closestTerms tablesSite similarity = ["tabl", "tabl"] := by
    rw [kept, List.perm_replicate] at sorted
    exact (texts_rank _ _ _).trans (sorted ▸ rfl)
  have answer := lookupTerm_missing missing false
  rw [lower] at answer
  refine ⟨answer, twice, ?_⟩
  intro best
  exact absurd (twice ▸ best.distinct) (by decide)

end Answer
end DocSearch
