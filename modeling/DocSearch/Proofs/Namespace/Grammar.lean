import DocSearch.Proofs.Namespace.Spelling

/- The grammar of namespaces: a head, a setting and an assigned value, any of which may be missing.
A text is read exactly if it is put together from such parts. It then is so in one way only, and
the components that are read are these parts. -/
namespace DocSearch.Namespace
open Text

inductive WordText : List Char → Prop
  | one {last : Char} (ends : isLast last = true) : WordText [last]
  | two {lead last : Char} (leads : isLead lead = true) (ends : isLast last = true) :
      WordText [lead, last]
  | long (lead : Option Char) {start last : Char} {inners : List Char}
      (leads : ∀ c ∈ lead, isLead c = true) (starts : isStart start = true) (filled : inners ≠ [])
      (inside : ∀ c ∈ inners, isInner c = true) (ends : isLast last = true) :
      WordText (lead.toList ++ start :: (inners ++ [last]))

theorem isLongWord_iff {s : List Char} : isLongWord s = true ↔
    ∃ start inners last, s = start :: (inners ++ [last]) ∧ isStart start = true ∧ inners ≠ [] ∧
      (∀ c ∈ inners, isInner c = true) ∧ isLast last = true := by
  cases s with
  | nil => simp [isLongWord]
  | cons c rest =>
    rw [isLongWord, Bool.and_eq_true, innersThenLast_iff]
    constructor
    · rintro ⟨starts, inners, last, rfl, inner⟩
      exact ⟨c, inners, last, rfl, starts, inner⟩
    · rintro ⟨start, inners, last, split, starts, inner⟩
      obtain ⟨rfl, rfl⟩ := List.cons.inj split
      exact ⟨starts, inners, last, rfl, inner⟩

theorem isWord_of_isLongWord {s : List Char} (long : isLongWord s = true) : isWord s = true := by
  match s with
  | [] | [_] | [_, _] => simp [isLongWord, innersThenLast] at long
  | _ :: _ :: _ :: _ => simp [isWord, long]

theorem isWord_cons_of_isLongWord {lead : Char} {s : List Char} (leads : isLead lead = true)
    (long : isLongWord s = true) : isWord (lead :: s) = true := by
  match s with
  | [] | [_] => simp [isLongWord, innersThenLast] at long
  | _ :: _ :: _ => simp [isWord, leads, long]

theorem isWord_iff {s : List Char} : isWord s = true ↔ WordText s := by
  constructor
  · intro word
    fun_cases isWord s with
    | case1 => cases word
    | case2 c => exact .one (by simpa [isWord] using word)
    | case3 c d =>
      rw [isWord, Bool.and_eq_true] at word
      exact .two word.1 word.2
    | case4 c rest short single =>
      rw [isWord, Bool.or_eq_true, Bool.and_eq_true, isLongWord_iff, isLongWord_iff] at word
      · rcases word with
          ⟨start, inners, last, split, starts, filled, inside, ends⟩ |
          ⟨leads, start, inners, last, rfl, starts, filled, inside, ends⟩
        · rw [split]
          exact .long none (by simp) starts filled inside ends
        · exact .long (some c) (by simpa using leads) starts filled inside ends
      all_goals assumption
  · intro word
    cases word with
    | one ends => simpa [isWord] using ends
    | two leads ends => simp [isWord, leads, ends]
    | long lead leads starts filled inside ends =>
      have long := isLongWord_iff.2 ⟨_, _, _, rfl, starts, filled, inside, ends⟩
      cases lead with
      | none => exact isWord_of_isLongWord long
      | some lead => exact isWord_cons_of_isLongWord (leads lead rfl) long

structure Word where
  text : String
  isWord : WordText text.toList

theorem Word.text_injective : Function.Injective Word.text := by
  intro a b same
  cases a
  cases b
  cases same
  rfl

inductive Head
  | nothing
  | bar (conf : Option Word)
  | sections (conf : Option Word) (names : List Word) (filled : names ≠ [])
      (few : names.length ≤ maxSections)

structure Assignment where
  before : List Char
  after : List Char
  value : List Char
  blankBefore : ∀ c ∈ before, isBlank c = true
  blankAfter : ∀ c ∈ after, isBlank c = true
  solid : ∀ c ∈ value.head?, isBlank c = false
  oneLine : '\n' ∉ value

structure Parts where
  head : Head
  setting : Option Word
  assignment : Option Assignment

def nameOf (word : Option Word) : Option String := word.map Word.text

def Head.conf : Head → Option Word
  | .nothing => none
  | .bar conf | .sections conf _ _ _ => conf

def Head.names : Head → List Word
  | .nothing | .bar _ => []
  | .sections _ names _ _ => names

def spelled (word : Option Word) : List Char := ((nameOf word).getD "").toList

def Head.spelled : Head → List Char
  | .nothing => []
  | .bar conf => Namespace.spelled conf ++ ['|']
  | .sections conf names _ _ => Namespace.spelled conf ++ (names.map Word.text).flatMap bracketed

def Assignment.spelled (assignment : Assignment) : List Char :=
  assignment.before ++ '=' :: (assignment.after ++ assignment.value)

def Parts.front (parts : Parts) : List Char := parts.head.spelled ++ spelled parts.setting

def Parts.text (parts : Parts) : String :=
  String.ofList (parts.front ++ (parts.assignment.map Assignment.spelled).getD [])

/-- The components that the parts are; an empty value is none. -/
def Parts.components (parts : Parts) : Namespace where
  conf := nameOf parts.head.conf
  sections := parts.head.names.map Word.text
  setting := nameOf parts.setting
  value := parts.assignment.bind fun assignment => present? (String.ofList assignment.value)

theorem isName_nameOf (word : Option Word) : IsName (nameOf word) := by
  rintro name member
  obtain ⟨word, _, rfl⟩ := Option.map_eq_some_iff.1 member
  exact isWord_iff.2 word.isWord

theorem exists_word {s : List Char} {component : Option String} (read : word? s = some component) :
    ∃ word, spelled word = s ∧ nameOf word = component := by
  obtain ⟨rfl, name⟩ := word?_eq_some.1 read
  cases component with
  | none => exact ⟨none, rfl, rfl⟩
  | some text => exact ⟨some ⟨text, isWord_iff.1 (name text rfl)⟩, rfl, rfl⟩

theorem exists_words {names : List String} (words : ∀ name ∈ names, isWord name.toList = true) :
    ∃ list : List Word, list.map Word.text = names := by
  refine ⟨names.pmap (fun name word => ⟨name, isWord_iff.1 word⟩) words, ?_⟩
  rw [List.map_pmap]
  simp

theorem isWord_of_mem_words (names : List Word) :
    ∀ name ∈ names.map Word.text, isWord name.toList = true := by
  intro name member
  obtain ⟨word, _, rfl⟩ := List.mem_map.1 member
  exact isWord_iff.2 word.isWord

theorem spelled_unmarked (word : Option Word) {mark : Char} (marks : mark ∈ ['=', '|', '[', ']']) :
    mark ∉ spelled word :=
  (isName_nameOf word).unmarked mark marks

theorem Head.spelled_unsigned (head : Head) : '=' ∉ head.spelled := by
  cases head with
  | nothing => simp [Head.spelled]
  | bar conf => simp [Head.spelled, spelled_unmarked conf]
  | sections conf names filled few =>
    have unsigned := bracketed_unmarked (isWord_of_mem_words names) '=' (by decide)
    simp [Head.spelled, spelled_unmarked conf, unsigned]

theorem Head.spelled_endsSolid (head : Head) : EndsSolid head.spelled := by
  cases head with
  | nothing => simp [Head.spelled, EndsSolid]
  | bar conf => simp [Head.spelled, EndsSolid, isBlank]
  | sections conf names filled few =>
    exact (isName_nameOf conf).endsSolid.append (bracketed_endsSolid _)

theorem Parts.front_unsigned (parts : Parts) : '=' ∉ parts.front := by
  rw [front, List.mem_append, not_or]
  exact ⟨parts.head.spelled_unsigned, spelled_unmarked parts.setting (by decide)⟩

theorem Parts.front_endsSolid (parts : Parts) : EndsSolid parts.front :=
  parts.head.spelled_endsSolid.append (isName_nameOf parts.setting).endsSolid

theorem Parts.parseFront_front (parts : Parts) :
    parseFront parts.front = some { parts.components with value := none } := by
  obtain ⟨head, setting, assignment⟩ := parts
  have isSetting := isName_nameOf setting
  cases head with
  | nothing => exact parseFront_single isSetting
  | bar conf =>
    have read := parseFront_bar (isName_nameOf conf) isSetting
    simpa [front, Head.spelled, spelled, components, empty, Head.conf, Head.names] using read
  | sections conf names filled few =>
    have read := parseFront_sections (isName_nameOf conf) isSetting (by simpa using filled)
      (isWord_of_mem_words names) (by simpa using few)
    exact read

section
variable {parts : Parts} {assignment : Assignment}

theorem Parts.toList_text_none (unassigned : parts.assignment = none) :
    parts.text.toList = parts.front := by
  simp [text, unassigned]

theorem Parts.toList_text_some (assigned : parts.assignment = some assignment) :
    parts.text.toList = (parts.front ++ assignment.before) ++
      '=' :: (assignment.after ++ assignment.value) := by
  simp [text, assigned, Assignment.spelled]

theorem Parts.unsigned_before (parts : Parts) (assignment : Assignment) :
    '=' ∉ parts.front ++ assignment.before := by
  have unblank : '=' ∉ assignment.before := by
    intro member
    exact absurd (assignment.blankBefore '=' member) (by decide)
  exact List.not_mem_append parts.front_unsigned unblank

end

theorem Parts.parse?_text (parts : Parts) : parse? parts.text = some parts.components := by
  have read := parts.parseFront_front
  unfold parse?
  dsimp only
  cases which : parts.assignment with
  | none =>
    rw [toList_text_none which, dropWhile_unmarked parts.front_unsigned]
    have unset : parts.components.value = none := by simp [components, which]
    simpa [← unset] using read
  | some assignment =>
    have unsigned := parts.unsigned_before assignment
    rw [toList_text_some which, dropWhile_before unsigned, takeWhile_before unsigned,
      trimRight_blanks assignment.blankBefore parts.front_endsSolid]
    simp only [trimLeft_blanks assignment.blankAfter assignment.solid]
    simp [read, assignment.oneLine, components, which]

theorem exists_front {s : List Char} {ns : Namespace} (read : parseFront s = some ns) :
    ∃ head setting, (⟨head, setting, none⟩ : Parts).front = s ∧
      (⟨head, setting, none⟩ : Parts).components = ns := by
  unfold parseFront at read
  dsimp only at read
  split at read
  · rename_i c rest cut
    obtain ⟨conf, readConf, read⟩ := Option.bind_eq_some_iff.1 read
    obtain ⟨setting, readSetting, read⟩ := Option.bind_eq_some_iff.1 read
    cases read
    obtain ⟨conf, before, rfl⟩ := exists_word readConf
    obtain ⟨setting, behind, rfl⟩ := exists_word readSetting
    refine ⟨.bar conf, setting, ?_, rfl⟩
    rw [split_at_mark cut, ← before, ← behind]
    simp [Parts.front, Head.spelled]
  · split at read
    · rename_i opened
      obtain ⟨conf, readConf, read⟩ := Option.bind_eq_some_iff.1 read
      obtain ⟨⟨sections, rest⟩, readSections, read⟩ := Option.bind_eq_some_iff.1 read
      obtain ⟨setting, readSetting, read⟩ := Option.bind_eq_some_iff.1 read
      cases read
      obtain ⟨conf, before, rfl⟩ := exists_word readConf
      obtain ⟨split, words, few⟩ := takeSections_eq_some readSections
      obtain ⟨setting, rfl, rfl⟩ := exists_word readSetting
      obtain ⟨names, rfl⟩ := exists_words words
      have whole : s = spelled conf ++
          ((names.map Word.text).flatMap bracketed ++ spelled setting) := by
        rw [before, ← split, List.takeWhile_append_dropWhile]
      have filled : names ≠ [] := by
        rintro rfl
        have member : '[' ∈ s := by simpa using opened
        simp [whole, spelled_unmarked] at member
      refine ⟨.sections conf names filled (by simpa using few), setting, ?_, rfl⟩
      simp [whole, Parts.front, Head.spelled]
    · obtain ⟨setting, readSetting, read⟩ := Option.bind_eq_some_iff.1 read
      cases read
      obtain ⟨setting, rfl, rfl⟩ := exists_word readSetting
      exact ⟨.nothing, setting, rfl, rfl⟩

theorem exists_parts {t : String} {ns : Namespace} (parsed : parse? t = some ns) :
    ∃ parts : Parts, parts.text = t ∧ parts.components = ns := by
  unfold parse? at parsed
  dsimp only at parsed
  split at parsed
  · obtain ⟨head, setting, spelled, rfl⟩ := exists_front parsed
    refine ⟨⟨head, setting, none⟩, ?_, rfl⟩
    simp [Parts.text, spelled]
  · rename_i c rest cut
    split at parsed
    · cases parsed
    · rename_i oneLine
      obtain ⟨front, read, same⟩ := Option.bind_eq_some_iff.1 parsed
      cases same
      obtain ⟨head, setting, spelled, rfl⟩ := exists_front read
      obtain ⟨before, trimmed, blankBefore⟩ := trimRight_append (t.toList.takeWhile (· ≠ '='))
      have whole : rest.takeWhile isBlank ++ trimLeft rest = rest := List.takeWhile_append_dropWhile
      refine ⟨⟨head, setting, some ⟨before, rest.takeWhile isBlank, trimLeft rest, blankBefore,
        takeWhile_all rest, trimLeft_solid rest, by simpa using oneLine⟩⟩, ?_, rfl⟩
      apply String.toList_inj.1
      rw [Parts.text, String.toList_ofList, split_at_mark cut, trimmed, ← spelled]
      simp [Parts.front, Assignment.spelled, whole]

theorem Assignment.ext_of_spelled {a b : Assignment} (before : a.before = b.before)
    (behind : a.after ++ a.value = b.after ++ b.value) : a = b := by
  have value : a.value = b.value := by
    rw [← trimLeft_blanks a.blankAfter a.solid, behind, trimLeft_blanks b.blankAfter b.solid]
  have after : a.after = b.after := by
    rw [value] at behind
    exact List.append_cancel_right behind
  cases a
  cases b
  cases before
  cases after
  cases value
  rfl

theorem Head.ext_of_bar {a b : Head} (conf : a.conf = b.conf) (names : a.names = b.names)
    (bar : '|' ∈ a.spelled ↔ '|' ∈ b.spelled) : a = b := by
  cases a <;> cases b <;> simp_all [Head.conf, Head.names, Head.spelled, spelled]

theorem Parts.bar_mem_front (parts : Parts) : '|' ∈ parts.front ↔ '|' ∈ parts.head.spelled := by
  rw [front, List.mem_append, or_iff_left]
  exact spelled_unmarked parts.setting (by decide)

theorem Parts.ext_of_front {a b : Parts} (same : a.front = b.front) :
    a.head = b.head ∧ a.setting = b.setting := by
  have ofWords : Function.Injective nameOf := Option.map_injective Word.text_injective
  have read := a.parseFront_front
  rw [same, b.parseFront_front, Option.some.injEq, Namespace.mk.injEq] at read
  obtain ⟨conf, names, setting, _⟩ := read
  have names := (List.map_inj_right Word.text_injective).1 names
  have bar : '|' ∈ a.head.spelled ↔ '|' ∈ b.head.spelled := by
    rw [← bar_mem_front, ← bar_mem_front, same]
  exact ⟨Head.ext_of_bar (ofWords conf).symm names.symm bar, (ofWords setting).symm⟩

theorem Parts.signed_iff (parts : Parts) :
    '=' ∈ parts.text.toList ↔ parts.assignment.isSome = true := by
  cases which : parts.assignment with
  | none => simp [toList_text_none which, parts.front_unsigned]
  | some assignment => simp [toList_text_some which]

theorem Parts.ext_of_text {a b : Parts} (same : a.text = b.text) :
    a.front = b.front ∧ a.assignment = b.assignment := by
  have signed : a.assignment.isSome = b.assignment.isSome := by
    rw [Bool.eq_iff_iff, ← signed_iff, ← signed_iff, same]
  have spelled : a.text.toList = b.text.toList := congrArg String.toList same
  cases ofA : a.assignment with
  | none =>
    cases ofB : b.assignment with
    | none => exact ⟨by rw [← toList_text_none ofA, spelled, toList_text_none ofB], rfl⟩
    | some => simp [ofA, ofB] at signed
  | some assigned =>
    cases ofB : b.assignment with
    | none => simp [ofA, ofB] at signed
    | some other =>
      -- The first equals sign of the text is the one between the blanks.
      have unsigned := a.unsigned_before assigned
      have unsignedOther := b.unsigned_before other
      rw [toList_text_some ofA, toList_text_some ofB] at spelled
      have before := congrArg (List.takeWhile (· ≠ '=')) spelled
      have behind := congrArg (List.dropWhile (· ≠ '=')) spelled
      rw [takeWhile_before unsigned, takeWhile_before unsignedOther] at before
      rw [dropWhile_before unsigned, dropWhile_before unsignedOther] at behind
      have front : a.front = b.front := by
        rw [← trimRight_blanks assigned.blankBefore a.front_endsSolid, before,
          trimRight_blanks other.blankBefore b.front_endsSolid]
      rw [front] at before
      have before := List.append_cancel_left before
      have same := Assignment.ext_of_spelled before (List.cons.inj behind).2
      exact ⟨front, congrArg some same⟩

theorem text_injective : Function.Injective Parts.text := by
  intro a b same
  obtain ⟨front, assignment⟩ := Parts.ext_of_text same
  obtain ⟨head, setting⟩ := Parts.ext_of_front front
  cases a
  cases b
  cases head
  cases setting
  cases assignment
  rfl

/-- A text is read as a namespace exactly if it is put together from parts with these components,
and no text is put together from parts in two ways. -/
theorem parse?_iff_parts : Function.Injective Parts.text ∧ ∀ (t : String) (ns : Namespace),
    parse? t = some ns ↔ ∃ parts : Parts, parts.text = t ∧ parts.components = ns := by
  refine ⟨text_injective, ?_⟩
  intro t ns
  constructor
  · exact exists_parts
  · rintro ⟨parts, rfl, rfl⟩
    exact parts.parse?_text

end DocSearch.Namespace
