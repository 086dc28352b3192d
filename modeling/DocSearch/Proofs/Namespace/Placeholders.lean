import DocSearch.Proofs.Namespace.Grammar

/- Section names in brackets, bare and as placeholders in angle brackets. Behind an opening angle
bracket, a word has a start and an inner character in front of its last one. -/
namespace DocSearch.Namespace
open Text

theorem takeSections_single {name : String} (closing : ']' ∉ name.toList) :
    takeSections maxSections (bracketed name) =
      if isWord name.toList then some ([name], []) else none := by
  by_cases word : isWord name.toList = true
  · have taken : takeSections maxSections ([name].flatMap bracketed ++ []) = some ([name], []) :=
      takeSections_bracketed (by simpa using word) (by simp [maxSections]) (by simp)
    simpa [word] using taken
  · rw [bracketed, maxSections, takeSections, takeWhile_before closing, dropWhile_before closing]
    simp [word]

theorem parse?_bracketed {name : String} (parts : ∀ c ∈ name.toList, isNamePart c = true) :
    parse? ("[" ++ name ++ "]") =
      if isWord name.toList then some { empty with sections := [name] } else none := by
  have unmarked (mark : Char) (marks : mark ∈ ['=', '|']) : mark ∉ bracketed name := by
    have inner := mark_not_mem parts (List.mem_append_left ['[', ']'] marks)
    simp only [bracketed, List.mem_cons, List.mem_append, List.not_mem_nil, or_false] at marks ⊢
    rcases marks with rfl | rfl <;> simp [inner]
  have text : ("[" ++ name ++ "]").toList = bracketed name := by simp [bracketed]
  have opened : (bracketed name).dropWhile (· ≠ '[') = bracketed name := by simp [bracketed]
  have closing : ']' ∉ name.toList := mark_not_mem parts (by decide)
  rw [parse?, text, dropWhile_unmarked (unmarked '=' (by decide)), parseFront,
    dropWhile_unmarked (unmarked '|' (by decide))]
  simp only [opened, takeSections_single closing]
  by_cases word : isWord name.toList <;> simp [word, bracketed, word?, empty]

theorem isWord_of_wordChars {s : List Char} (filled : s ≠ [])
    (all : ∀ c ∈ s, isWordChar c = true) : isWord s = true := by
  have last (c : Char) (word : isWordChar c = true) : isLast c = true := by simp [isLast, word]
  obtain ⟨front, c, rfl⟩ : ∃ front c, s = front ++ [c] :=
    ⟨_, _, (List.dropLast_concat_getLast filled).symm⟩
  rw [List.forall_mem_append, List.forall_mem_singleton] at all
  obtain ⟨all, atEnd⟩ := all
  apply isWord_iff.2
  rcases front with _ | ⟨d, _ | ⟨e, rest⟩⟩
  · exact .one (last c atEnd)
  · exact .two (by simp [isLead, all d]) (last c atEnd)
  · rw [List.forall_mem_cons] at all
    obtain ⟨first, all⟩ := all
    exact .long none (by simp) (by simp [isStart, first]) (by simp)
      (fun f member => by simp [isInner, all f member]) (last c atEnd)

theorem isWord_angled_iff {s : List Char} (filled : s ≠ []) (all : ∀ c ∈ s, isWordChar c = true) :
    isWord ('<' :: (s ++ ['>'])) = true ↔ 2 ≤ s.length := by
  match s with
  | [] => cases filled rfl
  | [c] =>
    -- Of three characters, the first one is the start: a lead asks for a fourth.
    have noStart : isStart '<' = false := by decide
    simp [isWord, isLongWord, innersThenLast, noStart]
  | c :: d :: rest =>
    rw [List.forall_mem_cons] at all
    obtain ⟨first, all⟩ := all
    have word : WordText ('<' :: c :: (d :: rest ++ ['>'])) :=
      .long (some '<') (by simp [isLead]) (by simp [isStart, first]) (by simp)
        (fun f member => by simp [isInner, all f member]) (by decide)
    exact iff_of_true (isWord_iff.2 word) (by simp)

/-- A section name of word characters can stand in brackets, and as a placeholder if it has two of
them. -/
theorem parse?_placeholder {name : String} (filled : name ≠ "")
    (word : ∀ c ∈ name.toList, isWordChar c = true) :
    parse? ("[" ++ name ++ "]") = some { empty with sections := [name] } ∧
      parse? ("[<" ++ name ++ ">]") =
        if 2 ≤ name.length then some { empty with sections := ["<" ++ name ++ ">"] } else none := by
  have letters : name.toList ≠ [] := by simpa using filled
  have parts : ∀ c ∈ name.toList, isNamePart c = true := by
    intro c member
    simp [isNamePart, isLast, word c member]
  have angle : isNamePart '<' = true ∧ isNamePart '>' = true := by decide
  have angledParts : ∀ c ∈ ("<" ++ name ++ ">").toList, isNamePart c = true := by
    simpa [or_imp, forall_and, angle] using parts
  have angled : "[<" ++ name ++ ">]" = "[" ++ ("<" ++ name ++ ">") ++ "]" := by
    apply String.toList_inj.1
    simp
  have spelled : ("<" ++ name ++ ">").toList = '<' :: (name.toList ++ ['>']) := by simp
  constructor
  · rw [parse?_bracketed parts, if_pos (isWord_of_wordChars letters word)]
  · rw [angled, parse?_bracketed angledParts, spelled]
    simp only [isWord_angled_iff letters word, String.length_toList]

theorem parse?_placeholder_job :
    ("job" ≠ "" ∧ ∀ c ∈ "job".toList, isWordChar c = true) ∧
      parse? "[job]" = some { empty with sections := ["job"] } ∧
      parse? "[<job>]" = some { empty with sections := ["<job>"] } := by
  have filled : "job" ≠ "" := by decide
  have word : ∀ c ∈ "job".toList, isWordChar c = true := List.all_eq_true.1 (by decide +kernel)
  exact ⟨⟨filled, word⟩, parse?_placeholder filled word⟩

/-- A placeholder of a single letter is refused. -/
theorem letter_placeholder_refused :
    ¬ ∀ name : String, name ≠ "" → (∀ c ∈ name.toList, isWordChar c = true) →
      parse? ("[<" ++ name ++ ">]") = some { empty with sections := ["<" ++ name ++ ">"] } := by
  intro all
  have read := all "a" (by decide) (List.all_eq_true.1 (by decide +kernel))
  have refused : parse? "[<a>]" = none := by decide +kernel
  rw [show "[<" ++ "a" ++ ">]" = "[<a>]" by decide, refused] at read
  cases read

end DocSearch.Namespace
