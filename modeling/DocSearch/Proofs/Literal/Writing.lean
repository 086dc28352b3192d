import Mathlib.Data.List.Perm.Basic
import DocSearch.Proofs.Literal.RealText
import DocSearch.Proofs.Literal.WholeText

/- What the writer prints for a value is a text that the grammar derives for that value, and no
other value has this text. -/
namespace DocSearch.Literal

def writesBare (dialect : Dialect) (v : Value) : Bool :=
  decide (dialect = .legacy) && v.hasKey isBareKey

theorem writesBare_array (dialect : Dialect) (items : List Value) :
    writesBare dialect (.array items) = items.any (writesBare dialect) := by
  cases dialect with
  | legacy => exact Value.hasKeyInItems_eq isBareKey items
  | json => simp [writesBare]

def writesBareMember (dialect : Dialect) (member : String × Value) : Bool :=
  (decide (dialect = .legacy) && isBareKey member.1) || writesBare dialect member.2

theorem writesBare_object (dialect : Dialect) (members : List (String × Value)) :
    writesBare dialect (.object members) = members.any (writesBareMember dialect) := by
  cases dialect with
  | legacy => exact Value.hasKeyInMembers_eq isBareKey members
  | json => simp [writesBare, writesBareMember]

def renderMember (dialect : Dialect) (member : String × Value) : List Char :=
  renderKey dialect member.1 ++ ':' :: render dialect member.2

theorem renderItems_eq (dialect : Dialect) (items : List Value) :
    renderItems dialect items = items.map (render dialect) := by
  induction items with
  | nil => rfl
  | cons item items ih => rw [renderItems, ih, List.map_cons]

theorem renderMembers_eq (dialect : Dialect) (members : List (String × Value)) :
    renderMembers dialect members = members.map (renderMember dialect) := by
  induction members with
  | nil => rfl
  | cons member members ih =>
    rw [renderMembers, ih, List.map_cons]
    rfl

theorem renderMember_spells {dialect : Dialect} {member : String × Value}
    (valued : ValueText (render dialect member.2) member.2 (writesBare dialect member.2)) :
    MemberText ValueText (renderMember dialect member) member
      (writesBareMember dialect member) := by
  have spelled := MemberText.parts spaces_nil (renderKey_spells dialect member.1) spaces_nil
    spaces_nil valued spaces_nil
  simpa [renderMember, writesBareMember] using spelled

section
variable {spelled : List Char → Value → Bool → Prop}

theorem ItemsText.commaSeparated {text : Value → List Char} {flag : Value → Bool}
    {items : List Value}
    (each : ∀ item ∈ items, spelled (text item) item (flag item)) (some : items ≠ []) :
    ItemsText spelled (commaSeparated (items.map text)) items (items.any flag) := by
  induction items with
  | nil => exact absurd rfl some
  | cons item items ih =>
    obtain ⟨first, later⟩ := List.forall_mem_cons.1 each
    cases items with
    | nil => simpa [Literal.commaSeparated] using ItemsText.last spaces_nil first spaces_nil
    | cons next items =>
      have more := ih later (List.cons_ne_nil next items)
      simpa [Literal.commaSeparated] using ItemsText.next spaces_nil first spaces_nil more

theorem MembersText.commaSeparated {text : String × Value → List Char}
    {flag : String × Value → Bool} {members : List (String × Value)}
    (each : ∀ member ∈ members, MemberText spelled (text member) member (flag member))
    (some : members ≠ []) :
    MembersText spelled (commaSeparated (members.map text)) members (members.any flag) := by
  induction members with
  | nil => exact absurd rfl some
  | cons member members ih =>
    obtain ⟨first, later⟩ := List.forall_mem_cons.1 each
    cases members with
    | nil => simpa [Literal.commaSeparated] using MembersText.last first
    | cons next members =>
      have more := ih later (List.cons_ne_nil next members)
      simpa [Literal.commaSeparated] using MembersText.next first more

end

theorem arrange_perm (dialect : Dialect) (parts : List (List Char)) :
    (arrange dialect parts).Perm parts := by
  cases dialect with
  | legacy => exact List.mergeSort_perm parts _
  | json => exact List.Perm.refl parts

theorem exists_arranged (dialect : Dialect) (text : String × Value → List Char)
    (members : List (String × Value)) :
    ∃ written : List (String × Value),
      arrange dialect (members.map text) = written.map text ∧ written.Perm members := by
  have perm := arrange_perm dialect (members.map text)
  exact (congrFun (congrFun (List.eq_map_comp_perm text) _) members).mpr perm

/-- The members of the object, in the order in which its text lists them. -/
def ListedAs (dialect : Dialect) (members written : List (String × Value)) : Prop :=
  written.Perm members ∧ render dialect (.object members) =
    '\x7b' :: commaSeparated (written.map (renderMember dialect)) ++ ['\x7d']

theorem exists_listed (dialect : Dialect) (members : List (String × Value)) :
    ∃ written, ListedAs dialect members written := by
  obtain ⟨written, arranged, perm⟩ := exists_arranged dialect (renderMember dialect) members
  refine ⟨written, perm, ?_⟩
  rw [render, renderMembers_eq, arranged]

theorem render_spells (dialect : Dialect) {v : Value} (ordered : v.Ordered) :
    ValueText (render dialect v) v (writesBare dialect v) := by
  have plain (v : Value) (none : v.hasKey isBareKey = false) : writesBare dialect v = false := by
    rw [writesBare, none, Bool.and_false]
  induction v using Value.induction with
  | null =>
    rw [plain _ rfl]
    exact .null
  | bool b =>
    rw [plain _ rfl]
    cases b with
    | true => exact .yes
    | false => exact .no
  | number n =>
    rw [plain _ rfl]
    obtain ⟨token, number, meant⟩ := renderNumber_spells n
    exact .number number.spelled meant
  | string s =>
    rw [plain _ rfl]
    have spelled := ValueText.string (JsonChars.flatMap_escapeChar s.toList).stringText
    rwa [String.ofList_toList] at spelled
  | array items ih =>
    rw [writesBare_array, render, renderItems_eq]
    rw [Value.Ordered, Value.orderedItems_iff] at ordered
    by_cases empty : items = []
    · subst empty
      exact .emptyArray spaces_nil
    · exact .array (.commaSeparated (fun item member => ih item member (ordered item member)) empty)
  | object members ih =>
    rw [Value.Ordered, Value.orderedMembers_iff] at ordered
    obtain ⟨ascending, inside⟩ := ordered
    obtain ⟨written, perm, shown⟩ := exists_listed dialect members
    rw [writesBare_object, shown, ← perm.any_eq]
    by_cases empty : written = []
    · subst empty
      rw [List.nil_perm.1 perm]
      exact .emptyObject spaces_nil
    · have each : ∀ member ∈ written,
          MemberText ValueText (renderMember dialect member) member
            (writesBareMember dialect member) := by
        intro member inWritten
        have inMembers := perm.mem_iff.1 inWritten
        exact renderMember_spells (ih member inMembers (inside member inMembers))
      have distinct := (perm.map Prod.fst).nodup_iff.2 ascending.keys_nodup
      have spelled := ValueText.object (MembersText.commaSeparated each empty) distinct
      rwa [KeyMap.entries_ofList_of_perm ascending perm.symm] at spelled

theorem writeCall_spells (dialect : Dialect) {v : Value} (ordered : v.Ordered) :
    IndexText (writeCall dialect v).toList v (writesBare dialect v) := by
  have spelled := IndexText.call (.plain spaces_nil) spaces_nil (render_spells dialect ordered)
    spaces_nil (.space spaces_nil)
  rw [writeCall, String.toList_ofList, List.append_assoc]
  exact spelled

theorem takeText_writeCall (dialect : Dialect) {v : Value} (ordered : v.Ordered)
    {found : Value × Bool} :
    takeText (writeCall dialect v).toList = .ok found ↔
      v.depth ≤ 128 ∧ found = (v, writesBare dialect v) := by
  have written := writeCall_spells dialect ordered
  constructor
  · intro taken
    obtain ⟨text, shallow⟩ := takeTextWithin_iff.1 taken
    obtain ⟨same, flag⟩ := text.unique written
    exact ⟨same ▸ shallow, Prod.ext same flag⟩
  · rintro ⟨shallow, rfl⟩
    exact takeTextWithin_iff.2 ⟨written, shallow⟩

/-- Text that was written is read back as the value it was written for, unless its containers stand
too deep inside one another. The dialect that is detected is the legacy one exactly if the text is
in it and shows it in a key. -/
theorem parse_writeCall {v : Value} (ordered : v.Ordered) (dialect : Dialect)
    (result : Value × Dialect) :
    parse (writeCall dialect v) = .ok result ↔ v.depth ≤ 128 ∧
      result = (v, if dialect = .legacy ∧ v.hasKey isBareKey then .legacy else .json) := by
  obtain ⟨found, foundDialect⟩ := result
  have detected : (if writesBare dialect v = true then Dialect.legacy else .json) =
      if dialect = .legacy ∧ v.hasKey isBareKey then .legacy else .json := by
    simp [writesBare]
  rw [parse_eq_ok, ← detected]
  constructor
  · rintro ⟨bare, taken, rfl⟩
    obtain ⟨shallow, same⟩ := (takeText_writeCall dialect ordered).1 taken
    cases same
    exact ⟨shallow, rfl⟩
  · rintro ⟨shallow, same⟩
    cases same
    exact ⟨_, (takeText_writeCall dialect ordered).2 ⟨shallow, rfl⟩, rfl⟩

theorem parse_writeCall_two_keys :
    parse (writeCall .legacy (.object [("a", .null), ("b-c", .array [.bool true])])) =
      .ok (.object [("a", .null), ("b-c", .array [.bool true])], .legacy) := by
  have ordered : (Value.object [("a", .null), ("b-c", .array [.bool true])]).Ordered :=
    ⟨by decide, trivial, ⟨trivial, trivial⟩, trivial⟩
  exact (parse_writeCall ordered .legacy _).2 ⟨by decide, rfl⟩

end DocSearch.Literal
