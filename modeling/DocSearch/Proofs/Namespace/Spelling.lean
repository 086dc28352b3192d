import DocSearch.Proofs.Namespace.Words

/- Namespaces and their texts. What is read from a text is well formed, and the text of a well-formed
namespace is read as that namespace again, but for a file without section and setting: its text is
that of a setting. -/
namespace DocSearch.Namespace
open Text

structure IsValue (s : List Char) : Prop where
  filled : s ≠ []
  solid : ∀ c ∈ s.head?, isBlank c = false
  oneLine : '\n' ∉ s

/-- What reading a text can give. -/
structure WellFormed (ns : Namespace) : Prop where
  conf : IsName ns.conf
  sections : ∀ name ∈ ns.sections, isWord name.toList = true
  few : ns.sections.length ≤ maxSections
  setting : IsName ns.setting
  value : ∀ value ∈ ns.value, IsValue value.toList

theorem parseFront_wellFormed {s : List Char} {ns : Namespace} (read : parseFront s = some ns) :
    ns.WellFormed ∧ ns.value = none := by
  unfold parseFront at read
  dsimp only at read
  split at read
  · obtain ⟨conf, readConf, read⟩ := Option.bind_eq_some_iff.1 read
    obtain ⟨setting, readSetting, read⟩ := Option.bind_eq_some_iff.1 read
    cases read
    exact ⟨⟨(word?_eq_some.1 readConf).2, by simp [empty], Nat.zero_le _,
      (word?_eq_some.1 readSetting).2, by simp [empty]⟩, rfl⟩
  · split at read
    · obtain ⟨conf, readConf, read⟩ := Option.bind_eq_some_iff.1 read
      obtain ⟨⟨sections, rest⟩, readSections, read⟩ := Option.bind_eq_some_iff.1 read
      obtain ⟨setting, readSetting, read⟩ := Option.bind_eq_some_iff.1 read
      cases read
      obtain ⟨_, words, few⟩ := takeSections_eq_some readSections
      exact ⟨⟨(word?_eq_some.1 readConf).2, words, few, (word?_eq_some.1 readSetting).2,
        by simp [empty]⟩, rfl⟩
    · obtain ⟨setting, readSetting, read⟩ := Option.bind_eq_some_iff.1 read
      cases read
      exact ⟨⟨by simp [empty, IsName], by simp [empty], Nat.zero_le _,
        (word?_eq_some.1 readSetting).2, by simp [empty]⟩, rfl⟩

theorem isValue_of_present? {s : List Char} (oneLine : '\n' ∉ trimLeft s) :
    ∀ value ∈ present? (String.ofList (trimLeft s)), IsValue value.toList := by
  intro value present
  unfold present? at present
  split at present
  · cases present
  · rename_i filled
    cases present
    rw [String.toList_ofList]
    exact ⟨by simpa using filled, trimLeft_solid s, oneLine⟩

theorem parse?_wellFormed {t : String} {ns : Namespace} (parsed : parse? t = some ns) :
    ns.WellFormed := by
  unfold parse? at parsed
  dsimp only at parsed
  split at parsed
  · exact (parseFront_wellFormed parsed).1
  · split at parsed
    · cases parsed
    · rename_i oneLine
      obtain ⟨front, read, same⟩ := Option.bind_eq_some_iff.1 parsed
      cases same
      obtain ⟨formed, _⟩ := parseFront_wellFormed read
      have oneLine := isValue_of_present? (by simpa using oneLine)
      exact ⟨formed.conf, formed.sections, formed.few, formed.setting, oneLine⟩

def frontText (ns : Namespace) : List Char :=
  let bar := if ns.conf.isSome && ns.sections.isEmpty then ['|'] else []
  (ns.conf.getD "").toList ++ ns.sections.flatMap bracketed ++
    (ns.setting.map (bar ++ ·.toList)).getD []

def valueText (value : Option String) : List Char := (value.map ('=' :: ·.toList)).getD []

theorem text_toList (ns : Namespace) : ns.text.toList = ns.frontText ++ valueText ns.value := by
  have sections : (String.join (ns.sections.map fun name => "[" ++ name ++ "]")).toList =
      ns.sections.flatMap bracketed := by
    simp only [String.toList_join, List.flatMap_map, String.toList_append]
    rfl
  have bar (inside : Bool) : (if inside then "|" else "").toList = if inside then ['|'] else [] := by
    cases inside <;> rfl
  rw [text, frontText, valueText]
  simp only [String.toList_append, sections]
  congr 1
  · congr 1
    cases ns.setting with
    | none => rfl
    | some setting =>
      simp only [Option.map_some, Option.getD_some, String.toList_append, bar]
  · cases ns.value <;> simp

theorem parse?_of_parseFront {t : String} {front : List Char} {value : Option String}
    {ns : Namespace} (spelled : t.toList = front ++ valueText value) (unsigned : '=' ∉ front)
    (solid : EndsSolid front) (isValue : ∀ v ∈ value, IsValue v.toList)
    (read : parseFront front = some ns) : parse? t = some { ns with value } := by
  unfold parse?
  dsimp only
  rw [spelled]
  cases value with
  | none =>
    rw [valueText, Option.map_none, Option.getD_none, List.append_nil, dropWhile_unmarked unsigned]
    obtain ⟨_, none⟩ := parseFront_wellFormed read
    simp [read, ← none]
  | some value =>
    obtain ⟨filled, begins, oneLine⟩ := isValue value rfl
    rw [valueText, Option.map_some, Option.getD_some, dropWhile_before unsigned,
      takeWhile_before unsigned, trimRight_of_endsSolid solid]
    have trimmed : trimLeft value.toList = value.toList := by
      obtain ⟨c, rest, same⟩ := List.exists_cons_of_ne_nil filled
      rw [same, trimLeft, List.dropWhile_cons_of_neg (by simp [begins c (by simp [same])])]
    have present : present? value = some value := by
      rw [present?, if_neg]
      simpa using filled
    simp [trimmed, oneLine, read, present]

theorem IsName.unmarked {component : Option String} (name : IsName component) (mark : Char)
    (marks : mark ∈ ['=', '|', '[', ']']) : mark ∉ (component.getD "").toList := by
  cases component with
  | none => simp
  | some text => exact mark_not_mem_word (name text rfl) marks

theorem IsName.endsSolid {component : Option String} (name : IsName component) :
    EndsSolid (component.getD "").toList := by
  cases component with
  | none => simp [EndsSolid]
  | some text => exact isWord_endsSolid (name text rfl)

theorem bracketed_unmarked {names : List String} (words : ∀ name ∈ names, isWord name.toList = true)
    (mark : Char) (marks : mark ∈ ['=', '|']) : mark ∉ names.flatMap bracketed := by
  intro member
  obtain ⟨name, within, member⟩ := List.mem_flatMap.1 member
  have inner : mark ∉ name.toList :=
    mark_not_mem_word (words name within) (List.mem_append_left ['[', ']'] marks)
  simp only [bracketed, List.mem_cons, List.mem_append, inner, List.not_mem_nil] at member marks
  rcases marks with rfl | rfl | none
  · simp at member
  · simp at member
  · exact none

theorem bracketed_endsSolid (names : List String) : EndsSolid (names.flatMap bracketed) := by
  induction names with
  | nil => simp [EndsSolid]
  | cons name names ih =>
    have first : EndsSolid (bracketed name) := by
      simp [EndsSolid, bracketed, List.getLast?_cons, isBlank]
    exact first.append ih

section
variable {conf setting : Option String} (isConf : IsName conf) (isSetting : IsName setting)
include isSetting

theorem parseFront_single :
    parseFront (setting.getD "").toList = some { empty with setting } := by
  have unbarred := isSetting.unmarked '|' (by decide)
  have unopened := isSetting.unmarked '[' (by decide)
  rw [parseFront, dropWhile_unmarked unbarred]
  simp [unopened, word?_eq_some.2 ⟨rfl, isSetting⟩]

include isConf

theorem parseFront_bar : parseFront ((conf.getD "").toList ++ '|' :: (setting.getD "").toList) =
    some { empty with conf, setting } := by
  have unbarred := isConf.unmarked '|' (by decide)
  rw [parseFront, dropWhile_before unbarred, takeWhile_before unbarred]
  simp [word?_eq_some.2 ⟨rfl, isConf⟩, word?_eq_some.2 ⟨rfl, isSetting⟩]

theorem parseFront_sections {sections : List String} (filled : sections ≠ [])
    (words : ∀ name ∈ sections, isWord name.toList = true) (few : sections.length ≤ maxSections) :
    parseFront ((conf.getD "").toList ++ sections.flatMap bracketed ++ (setting.getD "").toList) =
      some ⟨conf, sections, setting, none⟩ := by
  obtain ⟨first, later, rfl⟩ := List.exists_cons_of_ne_nil filled
  have unopened := isConf.unmarked '[' (by decide)
  have unopenedSetting := isSetting.unmarked '[' (by decide)
  have unbarred : '|' ∉ (conf.getD "").toList ++ (first :: later).flatMap bracketed ++
      (setting.getD "").toList := by
    simp only [List.mem_append, not_or]
    exact ⟨⟨isConf.unmarked '|' (by decide), bracketed_unmarked words '|' (by decide)⟩,
      isSetting.unmarked '|' (by decide)⟩
  have stop : (setting.getD "").toList.head? ≠ some '[' := by
    intro opens
    exact unopenedSetting (List.mem_of_head? opens)
  have taken := takeSections_bracketed words few stop
  obtain ⟨inside, opens⟩ : ∃ inside, (first :: later).flatMap bracketed ++
      (setting.getD "").toList = '[' :: inside := ⟨_, rfl⟩
  rw [parseFront, dropWhile_unmarked unbarred, List.append_assoc]
  rw [opens] at taken ⊢
  simp only [dropWhile_before unopened, takeWhile_before unopened]
  simp [taken, word?_eq_some.2 ⟨rfl, isConf⟩, word?_eq_some.2 ⟨rfl, isSetting⟩, empty]

end

section
variable {ns : Namespace} (formed : ns.WellFormed)
include formed

theorem WellFormed.frontText_unsigned : '=' ∉ ns.frontText := by
  have conf := formed.conf.unmarked '=' (by decide)
  have sections := bracketed_unmarked formed.sections '=' (by decide)
  have setting := formed.setting.unmarked '=' (by decide)
  rw [frontText]
  cases which : ns.setting with
  | none => simp [conf, sections]
  | some name =>
    rw [which] at setting
    simp only [Option.getD_some] at setting
    split <;> simp [conf, sections, setting]

theorem WellFormed.frontText_endsSolid : EndsSolid ns.frontText := by
  rw [frontText]
  apply EndsSolid.append
  · exact formed.conf.endsSolid.append (bracketed_endsSolid ns.sections)
  · cases which : ns.setting with
    | none => simp [EndsSolid]
    | some name =>
      have solid := isWord_endsSolid (formed.setting name which)
      apply EndsSolid.append
      · split <;> simp [EndsSolid, isBlank]
      · exact solid

theorem WellFormed.parseFront_frontText
    (whole : ns.conf.isSome = true → ns.sections ≠ [] ∨ ns.setting.isSome = true) :
    parseFront ns.frontText = some { ns with value := none } := by
  obtain ⟨conf, sections, setting, value⟩ := ns
  obtain ⟨isConf, words, few, isSetting, _⟩ := formed
  dsimp only at isConf words few isSetting whole
  by_cases outside : sections = []
  · subst outside
    cases conf with
    | none =>
      have same : frontText ⟨none, [], setting, value⟩ = (setting.getD "").toList := by
        cases setting <;> simp [frontText]
      rw [same, parseFront_single isSetting]
      rfl
    | some conf =>
      obtain ⟨setting, rfl⟩ := Option.isSome_iff_exists.1 ((whole rfl).resolve_left (by simp))
      have same : frontText ⟨some conf, [], some setting, value⟩ =
          conf.toList ++ '|' :: setting.toList := by
        simp [frontText]
      have read := parseFront_bar isConf isSetting
      rw [same]
      exact read
  · have same : frontText ⟨conf, sections, setting, value⟩ =
        (conf.getD "").toList ++ sections.flatMap bracketed ++ (setting.getD "").toList := by
      cases setting <;> simp [frontText, outside]
    rw [same]
    exact parseFront_sections isConf isSetting outside words few

/-- A namespace is read from its text, unless it is a configuration file that neither a section nor
a setting follows. -/
theorem WellFormed.parse?_text
    (whole : ns.conf.isSome = true → ns.sections ≠ [] ∨ ns.setting.isSome = true) :
    parse? ns.text = some ns := by
  have front := formed.parseFront_frontText whole
  have read := parse?_of_parseFront ns.text_toList formed.frontText_unsigned
    formed.frontText_endsSolid formed.value front
  exact read

theorem WellFormed.parse?_text_conf (outside : ns.sections = []) (unset : ns.setting = none) :
    parse? ns.text = some { empty with setting := ns.conf, value := ns.value } := by
  have same : ns.frontText = (ns.conf.getD "").toList := by
    simp [frontText, outside, unset]
  have read := same ▸ parseFront_single formed.conf
  exact parse?_of_parseFront ns.text_toList formed.frontText_unsigned formed.frontText_endsSolid
    formed.value read

end

/-- A namespace that was read from a text is read from its own text again exactly if it is not a
configuration file without section and setting. In any case its text is read, as a namespace with
that same text. -/
theorem parse?_text_iff {t : String} {ns : Namespace} (parsed : parse? t = some ns) :
    (parse? ns.text = some ns ↔
      ¬ (ns.conf.isSome = true ∧ ns.sections = [] ∧ ns.setting = none)) ∧
    ∃ again, parse? ns.text = some again ∧ again.text = ns.text := by
  have formed := parse?_wellFormed parsed
  by_cases bare : ns.conf.isSome = true ∧ ns.sections = [] ∧ ns.setting = none
  · obtain ⟨present, outside, unset⟩ := bare
    have read := formed.parse?_text_conf outside unset
    constructor
    · constructor
      · intro same
        rw [read, Option.some.injEq] at same
        rw [← same] at present
        cases present
      · intro whole
        exact absurd ⟨present, outside, unset⟩ whole
    · refine ⟨_, read, ?_⟩
      apply String.toList_inj.1
      rw [text_toList, text_toList]
      simp only [frontText, outside, unset, empty]
      cases ns.conf <;> simp
  · have whole : ns.conf.isSome = true → ns.sections ≠ [] ∨ ns.setting.isSome = true := by
      intro present
      by_contra none
      rw [not_or, not_not, Bool.not_eq_true, Option.isSome_eq_false_iff, Option.isNone_iff_eq_none]
        at none
      exact bare ⟨present, none⟩
    have read := formed.parse?_text whole
    exact ⟨iff_of_true read bare, ns, read, rfl⟩

theorem parse?_text_iff_file_and_section :
    (parse? "x| = v " = some ⟨some "x", [], none, some "v "⟩ ∧
      parse? (text ⟨some "x", [], none, some "v "⟩) ≠ some ⟨some "x", [], none, some "v "⟩) ∧
    parse? "x[a.b][<ns>] = |=" = some ⟨some "x", ["a.b", "<ns>"], none, some "|="⟩ ∧
      parse? (text ⟨some "x", ["a.b", "<ns>"], none, some "|="⟩) =
        some ⟨some "x", ["a.b", "<ns>"], none, some "|="⟩ := by
  have ofFile : parse? "x| = v " = some ⟨some "x", [], none, some "v "⟩ := by decide +kernel
  have ofSection : parse? "x[a.b][<ns>] = |=" = some ⟨some "x", ["a.b", "<ns>"], none, some "|="⟩ := by
    decide +kernel
  refine ⟨⟨ofFile, ?_⟩, ofSection, ?_⟩
  · intro same
    exact (parse?_text_iff ofFile).1.1 same ⟨rfl, rfl, rfl⟩
  · apply (parse?_text_iff ofSection).1.2
    rintro ⟨_, outside, _⟩
    cases outside

end DocSearch.Namespace
