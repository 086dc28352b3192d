import DocSearch.Proofs.Literal.Ascii
import DocSearch.Proofs.Literal.BareKeys

/- What the writer prints is strict JSON: in the one dialect as it stands, in the other one once the
keys without quotes are put in quotes. -/
namespace DocSearch.Literal

theorem isMark_eq_false {c : Char} (kind : c.isAlphanum = true ∨ c = '_') : isMark c = false := by
  by_contra marked
  rw [Bool.not_eq_false] at marked
  have member : c ∈ marks := List.contains_iff_mem.1 marked
  simp only [marks, List.mem_cons, List.not_mem_nil, or_false] at member
  rcases member with rfl | rfl | rfl | rfl | rfl | rfl | rfl
  all_goals exact absurd kind (by decide)

theorem IsIdentifier.unmarked {key : String} (named : IsIdentifier key) :
    Unmarked key.toList := by
  intro c member
  exact isMark_eq_false (named.chars c member)

theorem NumberText.unmarked {s : List Char} {token : NumberToken} (text : NumberText s token) :
    Unmarked s := by
  have others : Unmarked ['-', '+', '.', 'e', 'E'] := by decide
  intro c member
  rcases text.chars c member with digit | other
  · exact isMark_eq_false (Or.inl (by simp [Char.isAlphanum, digit]))
  · exact others c other

theorem JsonChars.of_identifier {key : String} (named : IsIdentifier key) :
    JsonChars key.toList key.toList := by
  have plain : ∀ c ∈ key.toList, 0x20 ≤ c.toNat ∧ c ≠ '"' ∧ c ≠ '\\' := by
    intro c member
    have kind := named.chars c member
    constructor
    · exact (named.printable c member).1
    · constructor
      · intro same
        subst same
        exact absurd kind (by decide)
      · intro same
        subst same
        exact absurd kind (by decide)
  generalize key.toList = s at plain
  induction s with
  | nil => exact .done
  | cons c s ih =>
    obtain ⟨⟨printable, quote, backslash⟩, later⟩ := List.forall_mem_cons.1 plain
    exact .raw printable quote backslash (ih later)

/-- The pieces hold no key that the dialect would not write without quotes. -/
def KeysBare (dialect : Dialect) (found : List Piece) : Prop :=
  ∀ key ∈ found.filterMap Piece.bareKey?, dialect = .legacy ∧ isBareKey key = true

theorem KeysBare.append {dialect : Dialect} {found more : List Piece}
    (left : KeysBare dialect found) (right : KeysBare dialect more) :
    KeysBare dialect (found ++ more) := by
  unfold KeysBare
  rw [List.filterMap_append]
  exact List.forall_mem_append.2 ⟨left, right⟩

theorem keysBare_others (dialect : Dialect) (s : List Char) :
    KeysBare dialect (s.map .other) := by
  simp [KeysBare, List.filterMap_map, Piece.bareKey?, Function.comp_def]

/-- Wherever a value may end behind it, the text comes apart in the same way. It is spelled as
required once its bare keys are in quotes, and the dialect writes each of them bare. -/
def Requotes (dialect : Dialect) (s : List Char) (spelled : List Char → Prop) : Prop :=
  ∃ found, (∀ rest, ValueEnd rest → Reads s rest found) ∧ spelled (found.flatMap Piece.quoted) ∧
    KeysBare dialect found

section
variable {dialect : Dialect} {s t : List Char} {spelled further whole : List Char → Prop}

theorem quoted_others (s : List Char) : (s.map Piece.other).flatMap Piece.quoted = s :=
  flatMap_other Piece.quoted (fun _ => rfl) s

theorem Requotes.of_others (reads : ∀ rest, ValueEnd rest → Reads s rest (s.map .other))
    (text : spelled s) : Requotes dialect s spelled :=
  ⟨s.map .other, reads, by rwa [quoted_others], keysBare_others dialect s⟩

theorem Requotes.mono (text : Requotes dialect s spelled) (more : ∀ t, spelled t → further t) :
    Requotes dialect s further := by
  obtain ⟨found, reads, spelledFound, bare⟩ := text
  exact ⟨found, reads, more _ spelledFound, bare⟩

theorem valueEnd_cons {c : Char} (rest : List Char) (ends : c = ',' ∨ c = ']' ∨ c = '\x7d') :
    ValueEnd (c :: rest) := by
  intro d member
  cases member
  exact ends

theorem Requotes.comma (first : Requotes dialect s spelled) (later : Requotes dialect t further)
    (join : ∀ a b, spelled a → further b → whole (a ++ ',' :: b)) :
    Requotes dialect (s ++ ',' :: t) whole := by
  obtain ⟨found, reads, spelledFound, bare⟩ := first
  obtain ⟨more, readsMore, spelledMore, bareMore⟩ := later
  refine ⟨found ++ ([.other ','] ++ more), fun rest ends => ?_, ?_, ?_⟩
  · have mark := reads_mark (by decide : isMark ',' = true) (by decide) (t ++ rest)
    exact (reads _ (valueEnd_cons _ (Or.inl rfl))).append (mark.append (readsMore rest ends))
  · simpa [Piece.quoted] using join _ _ spelledFound spelledMore
  · exact bare.append ((keysBare_others dialect [',']).append bareMore)

theorem Requotes.enclosed {opening closing : Char} (text : Requotes dialect s spelled)
    (opens : isMark opening = true ∧ opening ≠ '"') (closes : closing = ']' ∨ closing = '\x7d')
    (around : ∀ a, spelled a → whole (opening :: (a ++ [closing]))) :
    Requotes dialect (opening :: (s ++ [closing])) whole := by
  obtain ⟨found, reads, spelledFound, bare⟩ := text
  have mark : isMark closing = true ∧ closing ≠ '"' := by rcases closes with rfl | rfl <;> decide
  refine ⟨[.other opening] ++ (found ++ [.other closing]), fun rest ends => ?_, ?_, ?_⟩
  · have inside := reads ([closing] ++ rest) (valueEnd_cons rest (Or.inr closes))
    exact (reads_mark opens.1 opens.2 _).append (inside.append (reads_mark mark.1 mark.2 rest))
  · simpa [Piece.quoted] using around _ spelledFound
  · exact (keysBare_others dialect [opening]).append
      (bare.append (keysBare_others dialect [closing]))

theorem Requotes.commaSeparated {α : Type} {text : α → List Char} {part : List Char → α → Prop}
    {as : List α} (each : ∀ a ∈ as, Requotes dialect (text a) (part · a)) (some : as ≠ []) :
    Requotes dialect (commaSeparated (as.map text)) (Separated part · as) := by
  induction as with
  | nil => exact absurd rfl some
  | cons a as ih =>
    obtain ⟨first, later⟩ := List.forall_mem_cons.1 each
    cases as with
    | nil => exact first.mono fun _ => .last
    | cons next as =>
      have more := ih later (List.cons_ne_nil next as)
      exact first.comma more fun _ _ => .next

end

theorem renderKey_eq (dialect : Dialect) (key : String) : renderKey dialect key =
    if dialect = .legacy ∧ isBareKey key = true then key.toList else renderString key := by
  cases dialect <;> simp [renderKey]

theorem renderKey_reads (dialect : Dialect) (key : String) :
    ∃ found k, (∀ rest, Reads (renderKey dialect key ++ [':']) rest found) ∧
      JsonChars k key.toList ∧ found.flatMap Piece.quoted = '"' :: (k ++ ['"', ':']) ∧
      KeysBare dialect found := by
  rw [renderKey_eq]
  split
  · rename_i bare
    have named := (isBareKey_iff.1 bare.2).1
    have some : key.toList ≠ [] := by
      obtain ⟨c, rest, shown, _⟩ := named
      simp [shown]
    refine ⟨_, key.toList, reads_key named.unmarked some, .of_identifier named, ?_, ?_⟩
    · simp [Piece.quoted]
    · simpa [KeysBare, Piece.bareKey?] using bare
  · have body := JsonChars.flatMap_escapeChar key.toList
    refine ⟨(renderString key).map .other ++ [.other ':'], _, fun rest => ?_, body, ?_, ?_⟩
    · exact (reads_string body _).append (reads_mark (by decide) (by decide) rest)
    · simp [quoted_others, renderString, Piece.quoted]
    · exact (keysBare_others dialect _).append (keysBare_others dialect [':'])

theorem renderMember_requotes {dialect : Dialect} {member : String × Value}
    {item : List Char → Value → Prop}
    (valued : Requotes dialect (render dialect member.2) (item · member.2)) :
    Requotes dialect (renderMember dialect member) (JsonMember item · member) := by
  obtain ⟨key, v⟩ := member
  obtain ⟨found, k, readsKey, named, quotedKey, bareKey⟩ := renderKey_reads dialect key
  obtain ⟨more, reads, whole, bare⟩ := valued
  refine ⟨found ++ more, fun rest ends => ?_, ?_, bareKey.append bare⟩
  · have read := (readsKey _).append (reads rest ends)
    simpa [renderMember] using read
  · have spelled := JsonMember.parts named whole
    rw [String.ofList_toList] at spelled
    simpa [quotedKey] using spelled

def memberOrder : Dialect → List (String × Value) → Prop
  | .json => Ascending
  | .legacy => fun _ => True

theorem exists_listed_inOrder (dialect : Dialect) {members : List (String × Value)}
    (ascending : Ascending members) :
    ∃ written, ListedAs dialect members written ∧ memberOrder dialect written := by
  cases dialect with
  | json =>
    refine ⟨members, ⟨.refl members, ?_⟩, ascending⟩
    rw [render, renderMembers_eq, arrange]
  | legacy =>
    obtain ⟨written, listed⟩ := exists_listed .legacy members
    exact ⟨written, listed, trivial⟩

/-- A mark stands behind each part of a text, so that every part comes apart as it does alone. -/
theorem render_requotes (dialect : Dialect) {v : Value} (ordered : v.Ordered) :
    Requotes dialect (render dialect v) (JsonText (memberOrder dialect) · v) := by
  induction v using Value.induction with
  | null =>
    rw [render]
    exact .of_others (fun rest ends => reads_unmarked (by decide) ends) .null
  | bool b =>
    rw [render]
    cases b with
    | true => exact .of_others (fun rest ends => reads_unmarked (by decide) ends) .yes
    | false => exact .of_others (fun rest ends => reads_unmarked (by decide) ends) .no
  | number n =>
    obtain ⟨token, number, meant⟩ := renderNumber_spells n
    exact .of_others (fun rest ends => reads_unmarked number.spelled.unmarked ends)
      (.number number meant)
  | string s =>
    have body := JsonChars.flatMap_escapeChar s.toList
    have spelled : JsonText (memberOrder dialect) _ _ := .string body
    rw [String.ofList_toList] at spelled
    exact .of_others (fun rest _ => reads_string body rest) spelled
  | array items ih =>
    rw [Value.Ordered, Value.orderedItems_iff] at ordered
    rw [render, renderItems_eq]
    by_cases empty : items = []
    · subst empty
      exact .of_others (fun rest _ => reads_pair (by decide) (by decide) rest) .emptyArray
    · have inside := Requotes.commaSeparated
        (fun item member => ih item member (ordered item member)) empty
      exact inside.enclosed (by decide) (Or.inl rfl) fun _ => .array
  | object members ih =>
    rw [Value.Ordered, Value.orderedMembers_iff] at ordered
    obtain ⟨ascending, inside⟩ := ordered
    obtain ⟨written, ⟨perm, shown⟩, order⟩ := exists_listed_inOrder dialect ascending
    rw [shown]
    by_cases empty : written = []
    · subst empty
      rw [List.nil_perm.1 perm]
      exact .of_others (fun rest _ => reads_pair (by decide) (by decide) rest) .emptyObject
    · have each : ∀ member ∈ written, Requotes dialect (renderMember dialect member)
          (JsonMember (JsonText (memberOrder dialect)) · member) := by
        intro member inWritten
        have inMembers := perm.mem_iff.1 inWritten
        exact renderMember_requotes (ih member inMembers (inside member inMembers))
      have distinct := (perm.map Prod.fst).nodup_iff.2 ascending.keys_nodup
      have inside := Requotes.commaSeparated each empty
      refine inside.enclosed (by decide) (Or.inr rfl) fun _ text => ?_
      have spelled := JsonText.object text distinct order
      rwa [KeyMap.entries_ofList_of_perm ascending perm.symm] at spelled

theorem Requotes.whole {dialect : Dialect} {s : List Char} {spelled : List Char → Prop}
    (text : Requotes dialect s spelled) :
    spelled (quoteKeys s) ∧ ∀ key ∈ bareKeys s, dialect = .legacy ∧ isBareKey key = true := by
  obtain ⟨found, reads, spelledFound, bare⟩ := text
  have alone := reads [] (by simp [ValueEnd])
  have same : pieces s = found := by simpa [Reads, pieces, piecesFrom, Spot.word] using alone
  rw [quoteKeys, bareKeys, same]
  exact ⟨spelledFound, bare⟩

theorem quoteKeys_of_bareKeys {s : List Char} (none : bareKeys s = []) : quoteKeys s = s := by
  rw [bareKeys, List.filterMap_eq_nil_iff] at none
  have same : (pieces s).flatMap Piece.quoted = (pieces s).flatMap Piece.asWritten := by
    refine List.flatMap_congr fun piece member => ?_
    cases piece with
    | bare key => exact absurd (none _ member) (by simp [Piece.bareKey?])
    | other c => rfl
  rw [quoteKeys, same, asWritten_pieces]

theorem quoteKeys_printable {s : List Char} (printable : Printable s) :
    Printable (quoteKeys s) := by
  intro c member
  obtain ⟨piece, found, inPiece⟩ := List.mem_flatMap.1 member
  have kept : ∀ d ∈ piece.asWritten, ' ' ≤ d ∧ d ≤ '~' := by
    intro d written
    apply printable
    rw [← asWritten_pieces s]
    exact List.mem_flatMap.2 ⟨piece, found, written⟩
  cases piece with
  | bare key =>
    have whole : Printable ('"' :: key ++ ['"']) := .append (.cons (by decide) kept) (by decide)
    exact whole c inPiece
  | other d => exact kept c inPiece

/-- The reader's grammar derives every strict text, for the same value. -/
theorem JsonText.valueText {arranged : List (String × Value) → Prop} {s : List Char} {v : Value}
    (text : JsonText arranged s v) : ValueText s v false := by
  -- Items and members are texts inside the text: each kind has its own part in the induction.
  refine @JsonText.rec arranged (fun s v _ => ValueText s v false)
    (fun s vs _ => ItemsText ValueText s vs false)
    (fun s written _ => MembersText ValueText s written false)
    (fun s member _ => MemberText ValueText s member false)
    .null .yes .no ?number ?string (.emptyArray spaces_nil) ?array (.emptyObject spaces_nil) ?object
    ?lastItem ?nextItem ?lastMember ?nextMember ?member s v text
  case number =>
    intro s token n number meant
    exact .number number.spelled meant
  case string =>
    intro s text body
    exact .string body.stringText
  case array =>
    intro s vs _ items
    exact .array items
  case object =>
    intro s written _ distinct _ members
    exact .object members distinct
  case lastItem =>
    intro s v _ item
    simpa using ItemsText.last spaces_nil item spaces_nil
  case nextItem =>
    intro s more v vs _ _ item items
    simpa using ItemsText.next spaces_nil item spaces_nil items
  case lastMember =>
    intro s member _ text
    exact .last text
  case nextMember =>
    intro s more member members _ _ text later
    exact .next text later
  case member =>
    intro k text s v named _ valued
    have key := KeyText.quoted named.stringText
    simpa using MemberText.parts spaces_nil key spaces_nil spaces_nil valued spaces_nil

theorem JsonText.unique {arranged order : List (String × Value) → Prop} {s : List Char}
    {v w : Value} (text : JsonText arranged s v) (other : JsonText order s w) : v = w := by
  have index {order : List (String × Value) → Prop} {v : Value} (text : JsonText order s v) :
      IndexText s v false := by
    simpa using IndexText.alone (.plain spaces_nil) text.valueText spaces_nil
  exact ((index text).unique (index other)).1

/-- What strict JSON makes of the texts that the two dialects have for a value. The members stand in
the ascending order of their keys in the one, and in any order in the other. -/
structure WrittenStrictly (v : Value) : Prop where
  jsonPrintable : Printable (write .json v).toList
  json : JsonText Ascending (write .json v).toList v
  legacyPrintable : Printable (write .legacy v).toList
  quotedPrintable : Printable (quoteKeys (write .legacy v).toList)
  quoted : JsonText (fun _ => True) (quoteKeys (write .legacy v).toList) v
  bare : ∀ key ∈ bareKeys (write .legacy v).toList, IsIdentifier key ∧ key ∉ reservedWords

/-- Either dialect writes strict JSON for the value itself, the legacy one up to the quotes around
its bare keys. Those keys are identifiers that are not reserved. -/
theorem write_strict {v : Value} (ordered : v.Ordered) : WrittenStrictly v := by
  obtain ⟨json, noKeys⟩ := (render_requotes .json ordered).whole
  obtain ⟨quoted, keys⟩ := (render_requotes .legacy ordered).whole
  have none : bareKeys (render .json v) = [] := by
    refine List.eq_nil_iff_forall_not_mem.2 fun key member => ?_
    cases (noKeys key member).1
  rw [quoteKeys_of_bareKeys none] at json
  have printable := render_printable .legacy v
  constructor
  all_goals rw [write, String.toList_ofList]
  · exact render_printable .json v
  · exact json
  · exact printable
  · exact quoteKeys_printable printable
  · exact quoted
  · exact fun key member => isBareKey_iff.1 (keys key member).2

theorem write_strict_reserved_key :
    WrittenStrictly (.object
      [("class", .null), ("key", .object [("\x7f", .array [.bool true, .string "\n"])])]) :=
  write_strict
    ⟨by decide, trivial, ⟨by decide, ⟨trivial, trivial, trivial⟩, trivial⟩, trivial⟩

end DocSearch.Literal
