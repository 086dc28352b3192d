import DocSearch.Proofs.Text.Pieces
import DocSearch.Query.Terms

/- No term of a query is listed twice, what each chunk adds to the terms, and what changes with the order
of the chunks and with one more excluded word at the end of a query. -/
namespace DocSearch

namespace Text

theorem lower_cons_dash (s : List Char) : ∃ body, lower ('-' :: s) = '-' :: body :=
  ⟨lowerFrom ['-'] s, by rw [lower, lowerFrom, if_neg (by decide)]; rfl⟩

end Text

namespace QueryTerms

theorem mem_addNew {terms : List String} {term other : String} :
    other ∈ addNew terms term ↔ other ∈ terms ∨ other = term := by
  unfold addNew
  split
  · rename_i old
    constructor
    · exact Or.inl
    · rintro (member | rfl)
      · exact member
      · exact List.contains_iff_mem.1 old
  · simp

theorem nodup_addNew {terms : List String} (distinct : terms.Nodup) (term : String) :
    (addNew terms term).Nodup := by
  unfold addNew
  split
  · exact distinct
  · rename_i new
    apply List.nodup_append.2
    refine ⟨distinct, by simp, ?_⟩
    intro other member last isTerm same
    rw [same, List.mem_singleton.1 isTerm] at member
    exact new (List.contains_iff_mem.2 member)

theorem nodup_foldl_addNew {terms : List String} (distinct : terms.Nodup) (more : List String) :
    (more.foldl addNew terms).Nodup := by
  induction more generalizing terms with
  | nil => exact distinct
  | cons term more ih => exact ih (nodup_addNew distinct term)

structure Distinct (terms : QueryTerms) : Prop where
  search : terms.search.Nodup
  excluded : terms.excluded.Nodup
  objects : terms.objects.Nodup

theorem distinct_addChunk [Stemmers] {terms : QueryTerms} (distinct : terms.Distinct)
    (language : Language) (chunk : List Char) : (addChunk language terms chunk).Distinct := by
  have objects := nodup_addNew distinct.objects (String.ofList (Text.lower chunk))
  unfold addChunk
  dsimp only
  split
  · exact ⟨distinct.search, nodup_foldl_addNew distinct.excluded _, objects⟩
  · exact ⟨nodup_foldl_addNew distinct.search _, distinct.excluded, objects⟩

theorem distinct_addChunks [Stemmers] {terms : QueryTerms} (distinct : terms.Distinct)
    (language : Language) (chunks : List (List Char)) : (chunks.foldl (addChunk language) terms).Distinct := by
  induction chunks generalizing terms with
  | nil => exact distinct
  | cons chunk chunks ih => exact ih (distinct_addChunk distinct language chunk)

theorem parse_distinct [Stemmers]
    (language : Language) (query : String) : (parse language query).Distinct := by
  apply distinct_addChunks
  exact ⟨List.nodup_nil, List.nodup_nil, List.nodup_nil⟩

theorem mem_foldl_addNew {terms more : List String} {term : String} :
    term ∈ more.foldl addNew terms ↔ term ∈ terms ∨ term ∈ more := by
  induction more generalizing terms with
  | nil => simp
  | cons first more ih => rw [List.foldl_cons, ih, mem_addNew, List.mem_cons, or_assoc]

def searchedIn [Stemmers] (language : Language) (chunk : List Char) : List String :=
  match Text.lower chunk with
  | '-' :: _ => []
  | body => stems language body

def excludedIn [Stemmers] (language : Language) (chunk : List Char) : List String :=
  match Text.lower chunk with
  | '-' :: body => stems language body
  | _ => []

theorem addChunk_eq [Stemmers] (language : Language) (terms : QueryTerms) (chunk : List Char) :
    addChunk language terms chunk =
      ⟨(searchedIn language chunk).foldl addNew terms.search,
        (excludedIn language chunk).foldl addNew terms.excluded,
        addNew terms.objects (String.ofList (Text.lower chunk))⟩ := by
  unfold addChunk searchedIn excludedIn
  dsimp only
  split
  · rename_i excludes
    simp [excludes]
  · simp

/-- The chunks fill the three lists independently of each other. -/
theorem addChunks_eq [Stemmers] (language : Language) (chunks : List (List Char)) (terms : QueryTerms) :
    chunks.foldl (addChunk language) terms =
      ⟨(chunks.flatMap (searchedIn language)).foldl addNew terms.search,
        (chunks.flatMap (excludedIn language)).foldl addNew terms.excluded,
        (chunks.map (String.ofList ∘ Text.lower)).foldl addNew terms.objects⟩ := by
  induction chunks generalizing terms with
  | nil => rfl
  | cons chunk chunks ih =>
    rw [List.foldl_cons, ih, addChunk_eq, List.flatMap_cons, List.flatMap_cons, List.foldl_append,
      List.foldl_append, List.map_cons, List.foldl_cons]
    rfl

theorem mem_search_parse [Stemmers] {language : Language} {query term : String} :
    term ∈ (parse language query).search ↔
      ∃ chunk ∈ Text.pieces Text.isBlank query.toList, term ∈ searchedIn language chunk := by
  simp [parse, addChunks_eq, mem_foldl_addNew, empty]

theorem mem_objects_parse [Stemmers] {language : Language} {query chunk : String} :
    chunk ∈ (parse language query).objects ↔
      ∃ piece ∈ Text.pieces Text.isBlank query.toList, String.ofList (Text.lower piece) = chunk := by
  simp [parse, addChunks_eq, mem_foldl_addNew, empty]

theorem mem_excluded_parse [Stemmers] {language : Language} {query term : String} :
    term ∈ (parse language query).excluded ↔
      ∃ chunk ∈ Text.pieces Text.isBlank query.toList, term ∈ excludedIn language chunk := by
  simp [parse, addChunks_eq, mem_foldl_addNew, empty]

/-- The same terms, each list in an order of its own. -/
structure Reorders (terms other : QueryTerms) : Prop where
  search : terms.search.Perm other.search
  excluded : terms.excluded.Perm other.excluded
  objects : terms.objects.Perm other.objects

theorem Reorders.symm {terms other : QueryTerms} (reorders : terms.Reorders other) :
    other.Reorders terms :=
  ⟨reorders.search.symm, reorders.excluded.symm, reorders.objects.symm⟩

theorem parse_reorders [Stemmers] (language : Language) {query other : String}
    (chunks : (Text.pieces Text.isBlank query.toList).Perm
      (Text.pieces Text.isBlank other.toList)) :
    (parse language query).Reorders (parse language other) := by
  have distinct := parse_distinct language query
  have distinctOther := parse_distinct language other
  refine ⟨?_, ?_, ?_⟩
  · apply (List.perm_ext_iff_of_nodup distinct.search distinctOther.search).2
    simp only [mem_search_parse, chunks.mem_iff, implies_true]
  · apply (List.perm_ext_iff_of_nodup distinct.excluded distinctOther.excluded).2
    simp only [mem_excluded_parse, chunks.mem_iff, implies_true]
  · apply (List.perm_ext_iff_of_nodup distinct.objects distinctOther.objects).2
    simp only [mem_objects_parse, chunks.mem_iff, implies_true]

structure Excludes (terms more : QueryTerms) (word : String) : Prop where
  search : more.search = terms.search
  excluded : ∀ term ∈ terms.excluded, term ∈ more.excluded
  objects : more.objects = addNew terms.objects (Text.lowercase ("-" ++ word))

theorem excludes_addChunk [Stemmers] (language : Language) (terms : QueryTerms) (word : String) :
    terms.Excludes (addChunk language terms ('-' :: word.toList)) word := by
  obtain ⟨body, lower⟩ := Text.lower_cons_dash word.toList
  have name : Text.lowercase ("-" ++ word) = String.ofList ('-' :: body) := by
    rw [Text.lowercase, String.toList_append, ← lower]
    rfl
  unfold addChunk
  rw [lower]
  exact ⟨rfl, fun term member => mem_foldl_addNew.2 (Or.inl member), by rw [name]; rfl⟩

section
variable {word : String} (unbroken : ∀ c ∈ word.toList, Text.isBlank c = false)
include unbroken

theorem pieces_exclusion : Text.pieces Text.isBlank ("-" ++ word).toList = ['-' :: word.toList] := by
  have run : ∀ c ∈ '-' :: word.toList, Text.isBlank c = false :=
    List.forall_mem_cons.2 ⟨by decide, unbroken⟩
  have filled : [].reverse ++ '-' :: word.toList ≠ [] := List.cons_ne_nil _ _
  rw [String.toList_append]
  exact Text.piecesFrom_run filled run

theorem pieces_with_exclusion (query : String) :
    Text.pieces Text.isBlank (query ++ " -" ++ word).toList =
      Text.pieces Text.isBlank query.toList ++ ['-' :: word.toList] := by
  have text : (query ++ " -" ++ word).toList = query.toList ++ ' ' :: ("-" ++ word).toList := by
    simp
  rw [text, Text.pieces, Text.piecesFrom_append [] _ (by decide), pieces_exclusion unbroken]
  rfl

theorem mem_excluded_with_exclusion [Stemmers] {language : Language} {query term : String} :
    term ∈ (parse language (query ++ " -" ++ word)).excluded ↔
      term ∈ (parse language query).excluded ∨ term ∈ (parse language ("-" ++ word)).excluded := by
  simp only [mem_excluded_parse, pieces_with_exclusion unbroken, pieces_exclusion unbroken,
    List.mem_append, or_and_right, exists_or]

end

theorem parse_excludes [Stemmers] (language : Language) (query : String) {word : String}
    (unbroken : ∀ c ∈ word.toList, Text.isBlank c = false) :
    (parse language query).Excludes (parse language (query ++ " -" ++ word)) word := by
  have last : parse language (query ++ " -" ++ word) =
      addChunk language (parse language query) ('-' :: word.toList) := by
    rw [parse, pieces_with_exclusion unbroken, List.foldl_append, List.foldl_cons, List.foldl_nil,
      parse]
  rw [last]
  exact excludes_addChunk language _ word

end QueryTerms
end DocSearch
