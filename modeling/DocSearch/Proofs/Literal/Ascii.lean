import DocSearch.Proofs.Literal.Writing

/- What the writer prints is printable ASCII, in either dialect and whatever the strings hold. -/
namespace DocSearch.Literal

def Printable (s : List Char) : Prop := ∀ c ∈ s, ' ' ≤ c ∧ c ≤ '~'

instance (s : List Char) : Decidable (Printable s) := List.decidableBAll _ s

theorem Printable.append {s t : List Char} (left : Printable s) (right : Printable t) :
    Printable (s ++ t) :=
  List.forall_mem_append.2 ⟨left, right⟩

theorem Printable.cons {c : Char} {s : List Char} (first : ' ' ≤ c ∧ c ≤ '~')
    (later : Printable s) : Printable (c :: s) :=
  List.forall_mem_cons.2 ⟨first, later⟩

theorem isAlphanum_printable {c : Char} (letter : c.isAlphanum = true) : ' ' ≤ c ∧ c ≤ '~' := by
  have ranges : (decide ('A' ≤ c ∧ c ≤ 'Z') || (decide ('a' ≤ c) && decide (c ≤ 'z')) ||
      (decide ('0' ≤ c) && decide (c ≤ '9'))) = true :=
    letter
  simp only [Bool.or_eq_true, Bool.and_eq_true, decide_eq_true_eq] at ranges
  rcases ranges with (⟨low, high⟩ | ⟨low, high⟩) | ⟨low, high⟩
  all_goals exact ⟨Char.le_trans (by decide) low, Char.le_trans high (by decide)⟩

theorem NumberText.chars {s : List Char} {token : NumberToken} (text : NumberText s token) :
    ∀ c ∈ s, c.isDigit = true ∨ c ∈ ['-', '+', '.', 'e', 'E'] := by
  cases text with
  | @parts negative whole f e _ _ valid fractional scientific =>
    have digits {ds : List Char} (valid : Digits ds) :
        ∀ c ∈ ds, c.isDigit = true ∨ c ∈ ['-', '+', '.', 'e', 'E'] :=
      fun c member => Or.inl (valid.2 c member)
    have exponentMark {c : Char} (letter : c = 'e' ∨ c = 'E') :
        c.isDigit = true ∨ c ∈ ['-', '+', '.', 'e', 'E'] := by
      rcases letter with rfl | rfl <;> decide
    simp only [List.forall_mem_append]
    refine ⟨by cases negative <;> simp [signText], digits valid, ?_, ?_⟩
    · cases fractional with
      | absent => simp
      | present valid => exact List.forall_mem_cons.2 ⟨by decide, digits valid⟩
    · cases scientific with
      | absent => simp
      | unsigned letter valid =>
        exact List.forall_mem_cons.2 ⟨exponentMark letter, digits valid⟩
      | positive letter valid =>
        simp only [List.forall_mem_cons]
        exact ⟨exponentMark letter, by decide, digits valid⟩
      | negative letter valid =>
        simp only [List.forall_mem_cons]
        exact ⟨exponentMark letter, by decide, digits valid⟩

theorem NumberText.printable {s : List Char} {token : NumberToken} (text : NumberText s token) :
    Printable s := by
  have others : Printable ['-', '+', '.', 'e', 'E'] := by decide
  intro c member
  rcases text.chars c member with digit | other
  · exact isAlphanum_printable (by simp [Char.isAlphanum, digit])
  · exact others c other

theorem hexUnit_printable (unit : Nat) : Printable (hexUnit unit) := by
  have digit : ∀ n < 16, ' ' ≤ n.digitChar ∧ n.digitChar ≤ '~' := by decide
  intro c member
  simp only [hexUnit, List.map_cons, List.map_nil, List.mem_cons, List.not_mem_nil, or_false]
    at member
  rcases member with rfl | rfl | rfl | rfl
  all_goals exact digit _ (Nat.mod_lt _ (by decide))

theorem escapeChar_printable (c : Char) : Printable (escapeChar c) := by
  unfold escapeChar
  iterate 7
    split
    · decide
  split
  · rename_i printable
    simp only [Bool.and_eq_true, decide_eq_true_eq] at printable
    exact List.forall_mem_singleton.2 printable
  · intro d member
    obtain ⟨unit, _, inUnit⟩ := List.mem_flatMap.1 member
    have whole : Printable ('\\' :: 'u' :: hexUnit unit) :=
      .cons (by decide) (.cons (by decide) (hexUnit_printable unit))
    exact whole d inUnit

theorem renderString_printable (s : String) : Printable (renderString s) := by
  have body : Printable (s.toList.flatMap escapeChar) := by
    intro d member
    obtain ⟨c, _, escaped⟩ := List.mem_flatMap.1 member
    exact escapeChar_printable c d escaped
  exact .append (.cons (by decide) body) (by decide)

theorem IsIdentifier.chars {key : String} (named : IsIdentifier key) :
    ∀ c ∈ key.toList, c.isAlphanum = true ∨ c = '_' := by
  obtain ⟨c, rest, spelled, first, later⟩ := named
  rw [spelled]
  refine List.forall_mem_cons.2 ⟨first.imp_left fun letter => ?_, later⟩
  simp [Char.isAlphanum, letter]

theorem IsIdentifier.printable {key : String} (named : IsIdentifier key) :
    Printable key.toList := by
  intro c member
  rcases named.chars c member with letter | rfl
  · exact isAlphanum_printable letter
  · decide

theorem renderKey_printable (dialect : Dialect) (key : String) :
    Printable (renderKey dialect key) := by
  cases dialect with
  | json => exact renderString_printable key
  | legacy =>
    simp only [renderKey]
    split
    · rename_i bare
      exact (isBareKey_iff.1 bare).1.printable
    · exact renderString_printable key

theorem commaSeparated_printable {parts : List (List Char)}
    (each : ∀ part ∈ parts, Printable part) : Printable (commaSeparated parts) := by
  induction parts with
  | nil => decide
  | cons part parts ih =>
    obtain ⟨first, later⟩ := List.forall_mem_cons.1 each
    cases parts with
    | nil => exact first
    | cons next parts => exact first.append (.cons (by decide) (ih later))

theorem render_printable (dialect : Dialect) (v : Value) : Printable (render dialect v) := by
  induction v using Value.induction with
  | null =>
    rw [render]
    decide
  | bool b =>
    rw [render]
    cases b <;> decide
  | number n =>
    obtain ⟨token, number, _⟩ := renderNumber_spells n
    exact number.spelled.printable
  | string s => exact renderString_printable s
  | array items ih =>
    rw [render, renderItems_eq]
    have inside : Printable (commaSeparated (items.map (render dialect))) :=
      commaSeparated_printable (List.forall_mem_map.2 ih)
    exact .append (.cons (by decide) inside) (by decide)
  | object members ih =>
    rw [render, renderMembers_eq]
    have inside : Printable
        (commaSeparated (arrange dialect (members.map (renderMember dialect)))) := by
      apply commaSeparated_printable
      intro part listed
      obtain ⟨member, inMembers, rfl⟩ := List.mem_map.1 ((arrange_perm dialect _).mem_iff.1 listed)
      exact (renderKey_printable dialect member.1).append (.cons (by decide) (ih member inMembers))
    exact .append (.cons (by decide) inside) (by decide)

end DocSearch.Literal
