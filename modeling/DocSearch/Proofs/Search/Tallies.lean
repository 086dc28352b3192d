import DocSearch.Proofs.Gathering
import DocSearch.Proofs.Query.Terms
import DocSearch.Proofs.Search.Sources
import DocSearch.Proofs.Search.Weights

/- Counting words page by page: the tallies sum up all occurrences of counted words, one tally for
each page, whatever the order and the number of the occurrences. -/
namespace DocSearch.SearchIndex

/-- One place where a source of a word names a page. -/
structure Occurrence where
  word : String
  weight : Int64
  doc : Nat

namespace Tally

def record (tallies : List Tally) (occurrence : Occurrence) : List Tally :=
  recordHit occurrence.word occurrence.weight occurrence.doc tallies

def gathering : Gathering Occurrence Tally Nat where
  slot := Occurrence.doc
  key := Tally.doc
  fresh occurrence := ⟨occurrence.doc, [occurrence.word], occurrence.weight⟩
  grown tally occurrence :=
    ⟨tally.doc, QueryTerms.addNew tally.words occurrence.word, max tally.best occurrence.weight⟩
  key_fresh _ := rfl
  key_grown _ _ := rfl

structure Sums (occurrences : List Occurrence) (tally : Tally) : Prop where
  distinct : tally.words.Nodup
  mem_words : ∀ word, word ∈ tally.words ↔ word ∈ occurrences.map Occurrence.word
  best : IsGreatest {weight | weight ∈ occurrences.map Occurrence.weight} tally.best

theorem maintains_sums : gathering.Maintains Sums where
  start occurrence := by
    refine ⟨by simp [gathering], by simp [gathering], ?_⟩
    exact isGreatest_map_singleton Occurrence.weight occurrence
  grow {occurrences tally} occurrence sums := by
    refine ⟨QueryTerms.nodup_addNew sums.distinct _, ?_, ?_⟩
    · intro word
      simp only [gathering, QueryTerms.mem_addNew, sums.mem_words, List.map_append,
        List.mem_append, List.map_singleton, List.mem_singleton]
    · exact isGreatest_map_append Occurrence.weight sums.best occurrence

def Ascending (tallies : List Tally) : Prop := tallies.Pairwise fun a b => a.doc < b.doc

theorem doc_of_mem_record {tallies : List Tally} {occurrence : Occurrence} {tally : Tally}
    (member : tally ∈ record tallies occurrence) :
    tally.doc = occurrence.doc ∨ ∃ old ∈ tallies, old.doc = tally.doc := by
  induction tallies with
  | nil =>
    left
    rw [List.mem_singleton.1 member]
  | cons first rest ih =>
    rw [record, recordHit] at member
    split at member
    · rcases List.mem_cons.1 member with rfl | later
      · exact Or.inl rfl
      · exact Or.inr ⟨tally, later, rfl⟩
    · split at member
      · rcases List.mem_cons.1 member with rfl | later
        · exact Or.inl rfl
        · exact Or.inr ⟨tally, List.mem_cons_of_mem _ later, rfl⟩
      · rcases List.mem_cons.1 member with rfl | later
        · exact Or.inr ⟨tally, by simp, rfl⟩
        · rcases ih later with here | ⟨old, inside, same⟩
          · exact Or.inl here
          · exact Or.inr ⟨old, List.mem_cons_of_mem _ inside, same⟩

theorem Ascending.record {tallies : List Tally} (ascending : Ascending tallies)
    (occurrence : Occurrence) : Ascending (record tallies occurrence) := by
  induction tallies with
  | nil => exact List.pairwise_singleton _ _
  | cons first rest ih =>
    obtain ⟨least, later⟩ := List.pairwise_cons.1 ascending
    rw [Tally.record, recordHit]
    split
    · rename_i below
      apply List.pairwise_cons.2
      refine ⟨?_, ascending⟩
      intro tally member
      rcases List.mem_cons.1 member with rfl | inside
      · exact below
      · exact Nat.lt_trans below (least tally inside)
    · split
      · rename_i here
        apply List.pairwise_cons.2
        refine ⟨?_, later⟩
        intro tally member
        rw [here]
        exact least tally member
      · apply List.pairwise_cons.2
        refine ⟨?_, ih later⟩
        intro tally member
        rcases doc_of_mem_record member with here | ⟨old, inside, same⟩
        · omega
        · rw [← same]
          exact least old inside

/-- The order of the tallies apart, recording is adding to the tally of the page. -/
theorem record_perm {tallies : List Tally} (ascending : Ascending tallies)
    (occurrence : Occurrence) :
    (record tallies occurrence).Perm (gathering.add tallies occurrence) := by
  induction tallies with
  | nil => exact List.Perm.refl _
  | cons first rest ih =>
    obtain ⟨least, later⟩ := List.pairwise_cons.1 ascending
    rw [record, recordHit]
    split
    · rename_i below
      have new : gathering.slot occurrence ∉ (first :: rest).map gathering.key := by
        intro old
        obtain ⟨tally, member, same⟩ := List.mem_map.1 old
        have same : tally.doc = occurrence.doc := same
        rcases List.mem_cons.1 member with rfl | inside
        · omega
        · have := least tally inside
          omega
      rw [Gathering.add_new new]
      -- The page is new: the program puts it in its place, the table at the end.
      exact (List.perm_append_singleton _ _).symm
    · rw [Gathering.add]
      split
      · rename_i here
        have here' : gathering.key first = gathering.slot occurrence := here.symm
        rw [if_pos here', here]
        exact List.Perm.refl _
      · rename_i other
        have other' : gathering.key first ≠ gathering.slot occurrence := Ne.symm other
        rw [if_neg other']
        exact (ih later).cons first

theorem summed_foldl_record {done : List Occurrence} {tallies : List Tally}
    (ascending : Ascending tallies) (summed : gathering.Summed Sums done tallies)
    (more : List Occurrence) :
    Ascending (more.foldl record tallies) ∧
      gathering.Summed Sums (done ++ more) (more.foldl record tallies) := by
  -- The program finds the tally of a page only as long as the tallies ascend.
  induction more generalizing done tallies with
  | nil => exact ⟨ascending, by simpa using summed⟩
  | cons occurrence more ih =>
    have next := (summed.add maintains_sums occurrence).perm (record_perm ascending occurrence).symm
    rw [← List.singleton_append, ← List.append_assoc]
    exact ih (ascending.record occurrence) next

end Tally

def occurrencesIn (term : String) (source : Source) : List Occurrence :=
  source.1.docs.map fun doc => ⟨term, source.2, doc⟩

def occurrences (index : SearchIndex) (scorer : Scorer) (terms : List String) : List Occurrence :=
  (index.countedTerms terms).flatMap fun term =>
    (index.sources scorer term).flatMap (occurrencesIn term)

theorem foldl_recordSource (term : String) (found : List Source) (tallies : List Tally) :
    found.foldl (recordSource term) tallies =
      (found.flatMap (occurrencesIn term)).foldl Tally.record tallies := by
  rw [List.foldl_flatMap]
  congr 1
  funext tallies source
  rw [recordSource, occurrencesIn, List.foldl_map]
  rfl

theorem countWords_eq_foldl (index : SearchIndex) (scorer : Scorer) (terms : List String)
    (tallies : List Tally) : index.countWords scorer terms tallies =
      (index.occurrences scorer terms).foldl Tally.record tallies := by
  induction terms generalizing tallies with
  | nil => rfl
  | cons term terms ih =>
    rw [countWords, occurrences, countedTerms, List.takeWhile_cons]
    split
    · rename_i none
      have uncounted : ¬ index.HasSource term := fun counts => hasSource_iff.1 counts none
      rw [decide_eq_false uncounted]
      rfl
    · rename_i some
      have counts : index.HasSource term := hasSource_iff.2 some
      rw [decide_eq_true counts, if_pos rfl, List.flatMap_cons, List.foldl_append, ih,
        foldl_recordSource]
      rfl

theorem countWords_summed (index : SearchIndex) (scorer : Scorer) (terms : List String) :
    Tally.Ascending (index.countWords scorer terms []) ∧
      Tally.gathering.Summed Tally.Sums (index.occurrences scorer terms)
        (index.countWords scorer terms []) := by
  rw [countWords_eq_foldl]
  exact Tally.summed_foldl_record List.Pairwise.nil Gathering.summed_nil _

theorem mem_occurrences {index : SearchIndex} {scorer : Scorer} {terms : List String}
    {occurrence : Occurrence} : occurrence ∈ index.occurrences scorer terms ↔
      occurrence.word ∈ index.countedTerms terms ∧ ∃ postings weight,
        index.IsSource occurrence.word postings weight ∧ occurrence.doc ∈ postings.docs ∧
          occurrence.weight = weight scorer := by
  obtain ⟨word, value, doc⟩ := occurrence
  simp only [occurrences, occurrencesIn, List.mem_flatMap, List.mem_map, Occurrence.mk.injEq]
  constructor
  · rintro ⟨term, counts, source, isSource, doc, member, rfl, rfl, rfl⟩
    obtain ⟨weight, isSource, same⟩ := mem_sources.1 isSource
    exact ⟨counts, source.1, weight, isSource, member, same⟩
  · rintro ⟨counts, postings, weight, isSource, member, rfl⟩
    exact ⟨word, counts, (postings, weight scorer), mem_sources.2 ⟨weight, isSource, rfl⟩, doc,
      member, rfl, rfl, rfl⟩

end DocSearch.SearchIndex
