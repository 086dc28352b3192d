import DocSearch.Namespace.Parser
import DocSearch.Proofs.Text.Pieces

/- The words that namespaces are made of. No word holds a mark that separates components or ends in a
blank, so that words and bracketed words are taken off a text whole. -/
namespace DocSearch.Namespace
open Text

def isNamePart (c : Char) : Bool := isLead c || isInner c || isLast c

theorem mark_not_namePart {mark : Char} (marks : mark ∈ ['=', '|', '[', ']']) :
    isNamePart mark = false := by
  simp only [List.mem_cons, List.not_mem_nil, or_false] at marks
  rcases marks with rfl | rfl | rfl | rfl <;> decide

theorem mark_not_mem {s : List Char} {mark : Char} (parts : ∀ c ∈ s, isNamePart c = true)
    (marks : mark ∈ ['=', '|', '[', ']']) : mark ∉ s := by
  intro member
  have part := parts mark member
  rw [mark_not_namePart marks] at part
  cases part

def blankCodes : List Nat :=
  [0x9, 0xA, 0xB, 0xC, 0xD, 0x20, 0x85, 0xA0, 0x1680, 0x2000, 0x2001, 0x2002, 0x2003, 0x2004, 0x2005,
    0x2006, 0x2007, 0x2008, 0x2009, 0x200A, 0x2028, 0x2029, 0x202F, 0x205F, 0x3000]

theorem isBlank_code {c : Char} (blank : isBlank c = true) : c.toNat ∈ blankCodes := by
  simp only [isBlank, Bool.or_eq_true, Bool.and_eq_true, decide_eq_true_eq, beq_iff_eq] at blank
  simp only [blankCodes, List.mem_cons, List.not_mem_nil, or_false]
  omega

theorem isWordChar_of_blank {c : Char} (blank : isBlank c = true) : isWordChar c = false := by
  have table : ∀ n ∈ blankCodes, inRanges wordCharRanges n = false := by decide +kernel
  exact table c.toNat (isBlank_code blank)

theorem isBlank_of_isLast {c : Char} (last : isLast c = true) : isBlank c = false := by
  apply Bool.eq_false_iff.2
  intro blank
  rw [isLast, isWordChar_of_blank blank, Bool.false_or, beq_iff_eq] at last
  subst last
  exact absurd blank (by decide)

theorem innersThenLast_iff {s : List Char} : innersThenLast s = true ↔
    ∃ inners last, s = inners ++ [last] ∧ inners ≠ [] ∧ (∀ c ∈ inners, isInner c = true) ∧
      isLast last = true := by
  fun_induction innersThenLast s with
  | case1 => simp
  | case2 c d =>
    rw [Bool.and_eq_true]
    constructor
    · rintro ⟨inner, last⟩
      exact ⟨[c], d, rfl, by simp, by simpa using inner, last⟩
    · rintro ⟨inners, last, split, filled, all, isLast⟩
      obtain ⟨first, rest, rfl⟩ := List.exists_cons_of_ne_nil filled
      cases rest with
      | nil => simp_all
      | cons => simp at split
  | case3 c rest short ih =>
    rw [Bool.and_eq_true, ih]
    constructor
    · rintro ⟨inner, inners, last, rfl, _, all, isLast⟩
      exact ⟨c :: inners, last, rfl, by simp, List.forall_mem_cons.2 ⟨inner, all⟩, isLast⟩
    · rintro ⟨inners, last, split, filled, all, isLast⟩
      obtain ⟨first, inners, rfl⟩ := List.exists_cons_of_ne_nil filled
      obtain ⟨rfl, rfl⟩ := List.cons.inj split
      obtain ⟨inner, all⟩ := List.forall_mem_cons.1 all
      refine ⟨inner, inners, last, rfl, ?_, all, isLast⟩
      rintro rfl
      exact short _ rfl

theorem isNamePart_of_isStart {c : Char} (start : isStart c = true) : isNamePart c = true := by
  simp only [isStart, Bool.or_eq_true] at start
  rcases start with word | hyphen
  · simp [isNamePart, isLead, word]
  · simp [isNamePart, isLead, hyphen]

theorem isLongWord_ends {s : List Char} (word : isLongWord s = true) :
    ∃ front last, s = front ++ [last] ∧ (∀ c ∈ front, isNamePart c = true) ∧
      isLast last = true := by
  cases s with
  | nil => cases word
  | cons c rest =>
    rw [isLongWord, Bool.and_eq_true, innersThenLast_iff] at word
    obtain ⟨start, inners, last, rfl, _, all, isLast⟩ := word
    refine ⟨c :: inners, last, rfl, ?_, isLast⟩
    rw [List.forall_mem_cons]
    constructor
    · exact isNamePart_of_isStart start
    · intro d member
      simp [isNamePart, all d member]

theorem isWord_ends {s : List Char} (word : isWord s = true) :
    ∃ front last, s = front ++ [last] ∧ (∀ c ∈ front, isNamePart c = true) ∧
      isLast last = true := by
  fun_cases isWord s with
  | case1 => cases word
  | case2 c => exact ⟨[], c, rfl, by simp, by simpa [isWord] using word⟩
  | case3 c d =>
    rw [isWord, Bool.and_eq_true] at word
    exact ⟨[c], d, rfl, by simp [isNamePart, word.1], word.2⟩
  | case4 c rest short single =>
    rw [isWord, Bool.or_eq_true, Bool.and_eq_true] at word
    rcases word with long | ⟨lead, long⟩
    · exact isLongWord_ends long
    · obtain ⟨front, last, rfl, all, isLast⟩ := isLongWord_ends long
      refine ⟨c :: front, last, rfl, ?_, isLast⟩
      exact List.forall_mem_cons.2 ⟨by simp [isNamePart, lead], all⟩
    all_goals assumption

theorem isWord_parts {s : List Char} (word : isWord s = true) : ∀ c ∈ s, isNamePart c = true := by
  obtain ⟨front, last, rfl, all, isLast⟩ := isWord_ends word
  rw [List.forall_mem_append]
  constructor
  · exact all
  · simp [isNamePart, isLast]

theorem isWord_ne_nil {s : List Char} (word : isWord s = true) : s ≠ [] := by
  obtain ⟨front, last, rfl, _⟩ := isWord_ends word
  simp

theorem mark_not_mem_word {s : List Char} {mark : Char} (word : isWord s = true)
    (marks : mark ∈ ['=', '|', '[', ']']) : mark ∉ s :=
  mark_not_mem (isWord_parts word) marks

/-- A text that blanks cannot be cut off from the end of. -/
def EndsSolid (s : List Char) : Prop := ∀ c ∈ s.getLast?, isBlank c = false

theorem EndsSolid.append {s t : List Char} (front : EndsSolid s) (back : EndsSolid t) :
    EndsSolid (s ++ t) := by
  intro c member
  rw [List.getLast?_append] at member
  cases last : t.getLast? with
  | none =>
    rw [last, Option.none_or] at member
    exact front c member
  | some d =>
    rw [last, Option.some_or] at member
    exact back c (last ▸ member)

theorem trimRight_of_endsSolid {s : List Char} (solid : EndsSolid s) : trimRight s = s := by
  rw [trimRight]
  cases reversed : s.reverse with
  | nil => simpa using reversed.symm
  | cons c rest =>
    have last : s.getLast? = some c := by rw [List.getLast?_eq_head?_reverse, reversed, List.head?_cons]
    rw [List.dropWhile_cons_of_neg (by simp [solid c last]), ← reversed, List.reverse_reverse]

theorem trimLeft_blanks {blanks s : List Char} (all : ∀ c ∈ blanks, isBlank c = true)
    (solid : ∀ c ∈ s.head?, isBlank c = false) : trimLeft (blanks ++ s) = s :=
  dropWhile_run all solid

theorem trimRight_blanks {blanks s : List Char} (all : ∀ c ∈ blanks, isBlank c = true)
    (solid : EndsSolid s) : trimRight (s ++ blanks) = s := by
  rw [trimRight, List.reverse_append, List.dropWhile_append_of_pos (by simpa using all)]
  exact trimRight_of_endsSolid solid

theorem trimRight_append (s : List Char) :
    ∃ blanks, s = trimRight s ++ blanks ∧ ∀ c ∈ blanks, isBlank c = true := by
  refine ⟨(s.reverse.takeWhile isBlank).reverse, ?_, ?_⟩
  · rw [trimRight, ← List.reverse_append, List.takeWhile_append_dropWhile, List.reverse_reverse]
  · intro c member
    exact takeWhile_all _ c (List.mem_reverse.1 member)

theorem trimLeft_solid (s : List Char) : ∀ c ∈ (trimLeft s).head?, isBlank c = false := by
  intro c first
  have blank := List.head?_dropWhile_not isBlank s
  rw [← trimLeft, Option.mem_def.1 first] at blank
  simpa using blank

theorem isWord_endsSolid {s : List Char} (word : isWord s = true) : EndsSolid s := by
  obtain ⟨front, last, rfl, _, isLast⟩ := isWord_ends word
  intro c member
  rw [List.getLast?_concat, Option.mem_some] at member
  exact member ▸ isBlank_of_isLast isLast

def IsName (component : Option String) : Prop := ∀ name ∈ component, isWord name.toList = true

theorem word?_eq_some {s : List Char} {component : Option String} :
    word? s = some component ↔ s = (component.getD "").toList ∧ IsName component := by
  unfold word?
  constructor
  · intro read
    split at read
    · rename_i empty
      cases read
      simpa [IsName] using empty
    · split at read
      · rename_i word
        cases read
        simp [IsName, word]
      · cases read
  · rintro ⟨rfl, word⟩
    cases component with
    | none => simp
    | some name =>
      have word := word name rfl
      simp [word, isWord_ne_nil word]

def bracketed (name : String) : List Char := '[' :: (name.toList ++ [']'])

theorem takeSections_eq_some {limit : Nat} {s rest : List Char} {names : List String}
    (taken : takeSections limit s = some (names, rest)) : s = names.flatMap bracketed ++ rest ∧
      (∀ name ∈ names, isWord name.toList = true) ∧ names.length ≤ limit := by
  fun_induction takeSections limit s generalizing names with
  | case1 limit s name behind closed word =>
    rename_i ih
    obtain ⟨⟨later, left⟩, again, same⟩ := Option.map_eq_some_iff.1 taken
    obtain ⟨rfl, rfl⟩ := Prod.mk.inj same
    obtain ⟨rfl, words, few⟩ := ih again
    have whole : name ++ ']' :: (later.flatMap bracketed ++ left) = s :=
      closed ▸ List.takeWhile_append_dropWhile
    constructor
    · rw [List.flatMap_cons, bracketed, String.toList_ofList, ← whole]
      simp
    · constructor
      · exact List.forall_mem_cons.2 ⟨by simpa using word, words⟩
      · exact Nat.succ_le_succ few
  | case2 => cases taken
  | case3 => cases taken
  | case4 => cases taken; simp

theorem takeSections_bracketed {limit : Nat} {names : List String} {rest : List Char}
    (words : ∀ name ∈ names, isWord name.toList = true) (few : names.length ≤ limit)
    (stop : rest.head? ≠ some '[') :
    takeSections limit (names.flatMap bracketed ++ rest) = some (names, rest) := by
  induction names generalizing limit with
  | nil =>
    rw [List.flatMap_nil, List.nil_append]
    unfold takeSections
    split
    · simp at stop
    · rfl
  | cons name names ih =>
    obtain ⟨word, words⟩ := List.forall_mem_cons.1 words
    obtain ⟨less, rfl⟩ := Nat.exists_eq_add_one_of_ne_zero (n := limit) (by simp at few; omega)
    have closing : ']' ∉ name.toList := mark_not_mem_word word (by decide)
    have again := ih words (by simpa using few)
    have split : (name :: names).flatMap bracketed ++ rest =
        '[' :: (name.toList ++ ']' :: (names.flatMap bracketed ++ rest)) := by
      simp [bracketed]
    rw [split, takeSections, takeWhile_before closing, dropWhile_before closing]
    simp [word, again]

end DocSearch.Namespace
