import DocSearch.Proofs.Gathering
import DocSearch.Proofs.Search.Weights
import DocSearch.Search.Engine

/- Which objects a search finds, said of the index and the chunks of the query alone: one result for
each page, anchor and full name that a qualifying object has, with the best score among them. -/
namespace DocSearch.SearchIndex
variable {index : SearchIndex} {scorer : Scorer}

/-- An object that is found by one chunk of a query: its name holds the chunk, its description all
others. -/
structure Qualifies (index : SearchIndex) (chunks : List String) (object : SiteObject)
    (document : Document) (chunk : String) : Prop where
  listed : object ∈ index.siteObjects
  visible : 0 ≤ object.priority
  placed : object.document = some document
  asked : chunk ∈ chunks
  named : chunk.toList <:+: Text.lower object.fullname.toList
  described : ∀ other ∈ chunks, other ≠ chunk → other.toList <:+: Text.lower
    (object.scope ++ " " ++ object.name ++ " " ++ object.label ++ " " ++ document.title).toList

def objectScore (scorer : Scorer) (object : SiteObject) (chunk : String) : Int64 :=
  scorer.objectName (Text.lower object.fullname.toList) chunk.toList +
    scorer.priority object.priority

def shownObject (object : SiteObject) (document : Document) (score : Int64) : SearchResult where
  kind := .object
  doc := document.doc
  docname := document.docname
  title := object.fullname
  anchor := some object.anchor
  description := some (object.label ++ ", in " ++ document.title)
  filename := document.filename
  score := score

def objectKey (result : SearchResult) : Nat × Option String × String :=
  (result.doc, result.anchor, result.title)

theorem mem_withOthers {passed chunks : List String} {chunk : String} {others : List String} :
    (chunk, others) ∈ withOthers passed chunks ↔
      ∃ before after, chunks = before ++ chunk :: after ∧ others = passed ++ (before ++ after) := by
  -- The chunks that were passed are others of every chunk that is still to come.
  induction chunks generalizing passed with
  | nil => simp [withOthers]
  | cons first rest ih =>
    rw [withOthers, List.mem_cons, ih, Prod.mk.injEq]
    constructor
    · rintro (⟨rfl, rfl⟩ | ⟨before, after, rfl, rfl⟩)
      · exact ⟨[], rest, rfl, rfl⟩
      · exact ⟨first :: before, after, rfl, by simp⟩
    · rintro ⟨before, after, split, rfl⟩
      cases before with
      | nil =>
        obtain ⟨rfl, rfl⟩ := List.cons.inj split
        exact Or.inl ⟨rfl, rfl⟩
      | cons head before =>
        obtain ⟨rfl, rfl⟩ := List.cons.inj split
        exact Or.inr ⟨before, after, rfl, by simp⟩

theorem mem_others {before after : List String} {chunk other : String}
    (distinct : (before ++ chunk :: after).Nodup) :
    other ∈ before ++ after ↔ other ∈ before ++ chunk :: after ∧ other ≠ chunk := by
  have new : chunk ∉ before ++ after :=
    (List.nodup_cons.1 (List.perm_middle.nodup_iff.1 distinct)).1
  rw [List.perm_middle.mem_iff, List.mem_cons]
  constructor
  · intro member
    refine ⟨Or.inr member, ?_⟩
    rintro rfl
    exact new member
  · rintro ⟨rfl | member, different⟩
    · exact absurd rfl different
    · exact member

theorem objectResult?_eq_some {chunk : String} {others : List String} {object : SiteObject}
    {result : SearchResult} : objectResult? scorer chunk others object = some result ↔
      0 ≤ object.priority ∧ ∃ document, object.document = some document ∧
        chunk.toList <:+: Text.lower object.fullname.toList ∧
        (∀ other ∈ others, other.toList <:+: haystack object document) ∧
        result = shownObject object document (objectScore scorer object chunk) := by
  unfold objectResult?
  split
  · rename_i hidden
    have hidden : ¬ 0 ≤ object.priority := by omega
    simp [hidden]
  · rename_i visible
    have visible : 0 ≤ object.priority := by omega
    cases object.document with
    | none => simp
    | some document =>
      simp only [Option.bind_some, visible, true_and, Option.some.injEq, exists_eq_left',
        ← Text.occursIn_iff, ← List.all_eq_true]
      split
      · rename_i unnamed
        simp only [Bool.not_eq_true'] at unnamed
        simp [unnamed]
      · rename_i named
        simp only [Bool.not_eq_true', Bool.not_eq_false] at named
        split
        · rename_i undescribed
          simp only [Bool.not_eq_true'] at undescribed
          simp [undescribed]
        · rename_i described
          simp only [Bool.not_eq_true', Bool.not_eq_false] at described
          simp only [named, described, true_and, Option.some.injEq]
          exact eq_comm

def objectOffers (index : SearchIndex) (scorer : Scorer) (chunks : List String) :
    List SearchResult :=
  (withOthers [] chunks).flatMap fun (chunk, others) =>
    index.siteObjects.filterMap (objectResult? scorer chunk others)

theorem mem_objectOffers {chunks : List String} (distinct : chunks.Nodup) {result : SearchResult} :
    result ∈ index.objectOffers scorer chunks ↔ ∃ object document chunk,
      index.Qualifies chunks object document chunk ∧
        result = shownObject object document (objectScore scorer object chunk) := by
  unfold objectOffers
  simp only [List.mem_flatMap, List.mem_filterMap, objectResult?_eq_some, Prod.exists,
    mem_withOthers]
  constructor
  · rintro ⟨chunk, others, ⟨before, after, rfl, rfl⟩, object, listed, visible, document, placed,
      named, described, rfl⟩
    refine ⟨object, document, chunk, ?_, rfl⟩
    refine ⟨listed, visible, placed, by simp, named, fun other member different => ?_⟩
    exact described other ((mem_others distinct).2 ⟨member, different⟩)
  · rintro ⟨object, document, chunk, qualifies, rfl⟩
    obtain ⟨before, after, rfl⟩ := List.append_of_mem qualifies.asked
    refine ⟨chunk, before ++ after, ⟨before, after, rfl, rfl⟩, object, qualifies.listed,
      qualifies.visible, document, qualifies.placed, qualifies.named, fun other member => ?_, rfl⟩
    obtain ⟨asked, different⟩ := (mem_others distinct).1 member
    exact qualifies.described other asked different

def merging : Gathering SearchResult SearchResult (Nat × Option String × String) where
  slot := objectKey
  key := objectKey
  fresh := id
  grown old result := { old with score := max old.score result.score }
  key_fresh _ := rfl
  key_grown _ _ := rfl

/-- One of the offers, with the best score of all. -/
structure BestOf (offers : List SearchResult) (result : SearchResult) : Prop where
  best : IsGreatest {score | score ∈ offers.map (·.score)} result.score
  offered : ∃ offer ∈ offers, result = { offer with score := result.score }

theorem maintains_bestOf : merging.Maintains BestOf where
  start offer := ⟨isGreatest_map_singleton SearchResult.score offer, offer, by simp, rfl⟩
  grow {offers result} offer bestOf := by
    obtain ⟨first, member, same⟩ := bestOf.offered
    refine ⟨isGreatest_map_append SearchResult.score bestOf.best offer, first, ?_, ?_⟩
    · exact List.mem_append_left _ member
    · rw [merging]
      dsimp only
      rw [same]

theorem sameObject_iff {a b : SearchResult} : sameObject a b = true ↔ objectKey a = objectKey b := by
  simp [sameObject, objectKey, and_assoc]

theorem addResult_eq (results : List SearchResult) (result : SearchResult) :
    addResult results result = merging.add results result := by
  induction results with
  | nil => rfl
  | cons old rest ih =>
    rw [addResult, Gathering.add]
    by_cases same : sameObject old result = true
    · have key : merging.key old = merging.slot result := sameObject_iff.1 same
      rw [if_pos same, if_pos key]
      rfl
    · have key : merging.key old ≠ merging.slot result := mt sameObject_iff.2 same
      rw [if_neg same, if_neg key, ih]

theorem objectResults_summed (index : SearchIndex) (scorer : Scorer) (terms : QueryTerms) :
    merging.Summed BestOf (index.objectOffers scorer terms.objects)
      (index.objectResults scorer terms) := by
  have step : addResult = merging.add := funext fun results => funext (addResult_eq results)
  rw [objectResults, step]
  exact Gathering.summed_nil.foldl_add maintains_bestOf _

/-- The scores of all qualifying objects with this page, anchor and full name, for each chunk that
they qualify for. -/
def objectScores (index : SearchIndex) (scorer : Scorer) (chunks : List String)
    (key : Nat × Option String × String) : Set Int64 :=
  {score | ∃ object document chunk, index.Qualifies chunks object document chunk ∧
    (document.doc, some object.anchor, object.fullname) = key ∧
      score = objectScore scorer object chunk}

theorem scores_of_offers {chunks : List String} (distinct : chunks.Nodup)
    (key : Nat × Option String × String) :
    {score | score ∈ ((index.objectOffers scorer chunks).filter (objectKey · = key)).map (·.score)} =
      index.objectScores scorer chunks key := by
  ext score
  simp only [Set.mem_ofPred_eq, List.mem_map, List.mem_filter, mem_objectOffers distinct,
    decide_eq_true_eq]
  constructor
  · rintro ⟨offer, ⟨⟨object, document, chunk, qualifies, rfl⟩, here⟩, rfl⟩
    exact ⟨object, document, chunk, qualifies, here, rfl⟩
  · rintro ⟨object, document, chunk, qualifies, here, rfl⟩
    exact ⟨_, ⟨⟨object, document, chunk, qualifies, rfl⟩, here⟩, rfl⟩

theorem objectResults_best {terms : QueryTerms} (distinct : terms.objects.Nodup)
    {result : SearchResult} (member : result ∈ index.objectResults scorer terms) :
    IsGreatest (index.objectScores scorer terms.objects (objectKey result)) result.score ∧
      ∃ object document chunk, index.Qualifies terms.objects object document chunk ∧
        result = shownObject object document result.score := by
  have bestOf := (objectResults_summed index scorer terms).sums result member
  constructor
  · rw [← scores_of_offers distinct]
    exact bestOf.best
  -- The first offer of a key gives all but the score.
  · obtain ⟨offer, offered, same⟩ := bestOf.offered
    obtain ⟨object, document, chunk, qualifies, rfl⟩ :=
      (mem_objectOffers distinct).1 (List.mem_filter.1 offered).1
    exact ⟨object, document, chunk, qualifies, same⟩

theorem mem_keys_objectResults {terms : QueryTerms} (distinct : terms.objects.Nodup)
    {key : Nat × Option String × String} :
    key ∈ (index.objectResults scorer terms).map objectKey ↔ ∃ object document chunk,
      index.Qualifies terms.objects object document chunk ∧
        key = (document.doc, some object.anchor, object.fullname) := by
  constructor
  · intro member
    obtain ⟨result, found, rfl⟩ := List.mem_map.1 member
    obtain ⟨_, object, document, chunk, qualifies, same⟩ := objectResults_best distinct found
    exact ⟨object, document, chunk, qualifies, by rw [same]; rfl⟩
  · rintro ⟨object, document, chunk, qualifies, rfl⟩
    exact (objectResults_summed index scorer terms).complete _
      ((mem_objectOffers distinct).2 ⟨object, document, chunk, qualifies, rfl⟩)

theorem kind_of_mem_objects {terms : QueryTerms} (distinct : terms.objects.Nodup)
    {result : SearchResult} (member : result ∈ index.objectResults scorer terms) :
    result.kind = .object := by
  obtain ⟨_, object, document, chunk, _, same⟩ := objectResults_best distinct member
  rw [same]
  rfl

end DocSearch.SearchIndex
