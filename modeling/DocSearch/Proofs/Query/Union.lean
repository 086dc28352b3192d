import DocSearch.Proofs.Query.Terms
import DocSearch.Stem.Snowball

/- Two queries with blanks between them are one query, whose terms are those of the first and behind
them the ones that the second has beyond the first. -/
namespace DocSearch.QueryTerms

def joinNew (terms more : List String) : List String := terms ++ more.filter (· ∉ terms)

theorem addNew_joinNew (terms more : List String) (term : String) :
    addNew (joinNew terms more) term = joinNew terms (addNew more term) := by
  unfold addNew joinNew
  by_cases old : term ∈ terms
  · by_cases listed : term ∈ more <;> simp [old, listed]
  · by_cases listed : term ∈ more <;> simp [old, listed]

theorem foldl_addNew_joinNew (terms start more : List String) :
    more.foldl addNew (joinNew terms start) = joinNew terms (more.foldl addNew start) := by
  induction more generalizing start with
  | nil => rfl
  | cons term more ih => rw [List.foldl_cons, addNew_joinNew, ih, List.foldl_cons]

theorem foldl_addNew_eq (terms more : List String) :
    more.foldl addNew terms = joinNew terms (more.foldl addNew []) := by
  rw [← foldl_addNew_joinNew, joinNew, List.filter_nil, List.append_nil]

def join (terms more : QueryTerms) : QueryTerms :=
  ⟨joinNew terms.search more.search, joinNew terms.excluded more.excluded,
    joinNew terms.objects more.objects⟩

theorem addChunks_join [Stemmers]
    (language : Language) (chunks : List (List Char)) (terms : QueryTerms) :
    chunks.foldl (addChunk language) terms =
      terms.join (chunks.foldl (addChunk language) empty) := by
  -- The three lists grow apart from each other, each by terms of its own.
  rw [addChunks_eq, addChunks_eq, foldl_addNew_eq terms.search, foldl_addNew_eq terms.excluded,
    foldl_addNew_eq terms.objects]
  rfl

/-- The terms of two queries with blanks between them: each list is that of the first query and, behind
it, what the list of the second has beyond it. No list has a term twice. -/
theorem parse_joined [Stemmers] (language : Language) (query other : String) {blanks : String}
    (filled : blanks ≠ "") (blank : ∀ c ∈ blanks.toList, Text.isBlank c = true) :
    let terms := parse language query
    let more := parse language other
    let whole := parse language (query ++ blanks ++ other)
    (whole.search = terms.search ++ more.search.filter (· ∉ terms.search) ∧
      whole.excluded = terms.excluded ++ more.excluded.filter (· ∉ terms.excluded) ∧
      whole.objects = terms.objects ++ more.objects.filter (· ∉ terms.objects)) ∧
    whole.Distinct ∧ terms.Distinct := by
  intro terms more whole
  have filled : blanks.toList ≠ [] := by simpa using filled
  have chunks : Text.pieces Text.isBlank (query ++ blanks ++ other).toList =
      Text.pieces Text.isBlank query.toList ++ Text.pieces Text.isBlank other.toList := by
    rw [String.toList_append, String.toList_append, Text.pieces_separated filled blank]
  have joined : whole = terms.join more := by
    change parse language (query ++ blanks ++ other) = _
    rw [parse, chunks, List.foldl_append, addChunks_join]
    rfl
  refine ⟨?_, parse_distinct language _, parse_distinct language query⟩
  rw [joined]
  exact ⟨rfl, rfl, rfl⟩

theorem parse_joined_tables :
    let whole := parse .english ("Grid tables -the" ++ "\t\u3000" ++ "-Slides table grid in")
    whole.search = ["grid", "tabl"] ∧ whole.excluded = ["slide"] ∧
      whole.objects = ["grid", "tables", "-the", "-slides", "table", "in"] := by
  have blank := List.all_eq_true.1 (by decide +kernel : "\t\u3000".toList.all Text.isBlank = true)
  have joined := parse_joined .english "Grid tables -the" "-Slides table grid in" (by decide) blank
  obtain ⟨⟨search, excluded, objects⟩, _⟩ := joined
  refine ⟨search.trans ?_, excluded.trans ?_, objects.trans ?_⟩ <;> decide +kernel

end DocSearch.QueryTerms
