import DocSearch.Proofs.Literal.Reading

/- A whole index text: what may stand around a value, and the theorem that reading accepts one
grammar and returns what the grammar derives. -/
namespace DocSearch.Literal

theorem after?_eq_some {front s rest : List Char} :
    Text.after? front s = some rest ↔ s = front ++ rest := by
  induction front generalizing s with
  | nil => simp [Text.after?, eq_comm]
  | cons f front ih =>
    cases s with
    | nil => simp [Text.after?]
    | cons c s =>
      by_cases same : f = c
      · simp [Text.after?, same, ih]
      · simp [Text.after?, same, Ne.symm same]

theorem StartText.append {start space : List Char} (text : StartText start)
    (spaces : Spaces space) :
    StartText (start ++ space) := by
  cases text with
  | plain before => exact .plain (before.append spaces)
  | marked before => exact .marked (before.append spaces)

theorem exists_start (s : List Char) :
    ∃ start, StartText start ∧ s = start ++ skipSpace (skipMark s) := by
  obtain ⟨space, spaces, parted⟩ := exists_spaces (skipMark s)
  unfold skipMark at parted ⊢
  split at parted
  · exact ⟨_, .marked spaces, congrArg (List.cons '\ufeff') parted⟩
  · exact ⟨space, .plain spaces, parted⟩

theorem StartText.skip {start : List Char} (text : StartText start) {c : Char} (rest : List Char)
    (stop : isSpace c = false) (noMark : c ≠ '\ufeff') :
    skipSpace (skipMark (start ++ c :: rest)) = c :: rest := by
  cases text with
  | marked spaces => exact skipSpace_cons spaces rest stop
  | plain spaces =>
    have unmarked : skipMark (start ++ c :: rest) = start ++ c :: rest := by
      unfold skipMark
      split
      · rename_i same
        cases start with
        | nil => exact absurd (List.cons.inj same).1 noMark
        | cons d start =>
          have first := spaces d (by simp)
          rw [(List.cons.inj same).1] at first
          exact absurd first (by decide)
      · rfl
    rw [unmarked]
    exact skipSpace_cons spaces rest stop

theorem endText_iff {s : List Char} : EndText s ↔ skipSemicolon s = [] := by
  constructor
  · intro text
    cases text with
    | space spaces => simp [skipSemicolon, skipSpace_all spaces]
    | @semicolon before after spaceBefore spaceAfter =>
      have stop : skipSpace (before ++ ';' :: after) = ';' :: after :=
        skipSpace_cons spaceBefore _ rfl
      simp only [skipSemicolon, stop, skipSpace_all spaceAfter]
  · intro consumed
    obtain ⟨before, spaceBefore, parted⟩ := exists_spaces s
    unfold skipSemicolon at consumed
    split at consumed
    · rename_i rest found
      obtain ⟨after, spaceAfter, partedRest⟩ := exists_spaces rest
      rw [consumed, List.append_nil] at partedRest
      rw [parted, found, partedRest]
      exact .semicolon spaceBefore spaceAfter
    · rw [consumed, List.append_nil] at parted
      rw [parted]
      exact .space spaceBefore

theorem takeTextWithin_sound {depth : Nat} {s : List Char} {v : Value} {bare : Bool}
    (taken : takeTextWithin depth s = .ok (v, bare)) : IndexText s v bare ∧ v.depth ≤ depth := by
  obtain ⟨start, begins, parted⟩ := exists_start s
  unfold takeTextWithin at taken
  dsimp only at taken
  split at taken
  · rename_i inner opened
    obtain ⟨read, readValue, readOn⟩ := bind_eq_ok.1 taken
    obtain ⟨before, t, spaceBefore, ⟨value, shallow⟩, whole⟩ := takeValue_sound _ _ _ _ readValue
    obtain ⟨after, spaceAfter, partedRest⟩ := exists_spaces read.rest
    split at readOn
    · rename_i ending closed
      split at readOn
      · rename_i consumed
        cases pure_eq_ok.1 readOn
        refine ⟨?_, shallow⟩
        rw [parted, after?_eq_some.1 opened, whole, partedRest, closed]
        exact .call begins spaceBefore value spaceAfter (endText_iff.2 consumed)
      · cases readOn
    · cases readOn
  · obtain ⟨read, readValue, readOn⟩ := bind_eq_ok.1 taken
    obtain ⟨before, t, spaceBefore, ⟨value, shallow⟩, whole⟩ := takeValue_sound _ _ _ _ readValue
    obtain ⟨after, spaceAfter, partedRest⟩ := exists_spaces read.rest
    split at readOn
    · rename_i consumed
      cases pure_eq_ok.1 readOn
      refine ⟨?_, shallow⟩
      rw [parted, whole, partedRest, consumed, List.append_nil, ← List.append_assoc]
      exact .alone (begins.append spaceBefore) value spaceAfter
    · cases readOn

theorem takeTextWithin_complete {depth : Nat} {s : List Char} {v : Value} {bare : Bool}
    (text : IndexText s v bare) (shallow : v.depth ≤ depth) :
    takeTextWithin depth s = .ok (v, bare) := by
  cases text with
  | @alone start t after _ _ begins value spaceAfter =>
    obtain ⟨c, more, same, first⟩ := value.head
    have noMark : c ≠ '\ufeff' := startsValue_ne first (by decide)
    have noCall : 'S' ≠ c := (startsValue_ne first (by decide)).symm
    have front := begins.skip (more ++ after) (startsValue_not_space first) noMark
    rw [← List.cons_append, ← same] at front
    have unopened : Text.after? callOpening (t ++ after) = none := by
      rw [same]
      exact if_neg noCall
    have short : t.length ≤ (start ++ (t ++ after)).length := by simp; omega
    have ends : NumberEnd after := by simpa using spaceAfter.numberEnd numberEnd_nil
    have readValue :=
      takeValue_complete _ depth [] t after v bare spaces_nil ⟨value, shallow⟩ short ends
    rw [List.nil_append] at readValue
    simp only [takeTextWithin, front, unopened, readValue, bind, Except.bind,
      skipSpace_all spaceAfter]
    rfl
  | @call start before t after ending _ _ begins spaceBefore value spaceAfter ends =>
    generalize inside : before ++ (t ++ (after ++ ')' :: ending)) = inner
    have front : skipSpace (skipMark (start ++ ("Search.setIndex(".toList ++ inner))) =
        "Search.setIndex(".toList ++ inner :=
      begins.skip _ (by decide) (by decide)
    have opened : Text.after? callOpening ("Search.setIndex(".toList ++ inner) = some inner :=
      after?_eq_some.2 rfl
    have short : t.length ≤ (start ++ ("Search.setIndex(".toList ++ inner)).length := by
      rw [← inside]
      simp only [List.length_append]
      omega
    have close : skipSpace (after ++ ')' :: ending) = ')' :: ending :=
      skipSpace_cons spaceAfter _ rfl
    have readValue := takeValue_complete _ depth before t (after ++ ')' :: ending) v bare
      spaceBefore ⟨value, shallow⟩ short (spaceAfter.numberEnd (numberEnd_cons _ (by decide)))
    rw [inside] at readValue
    simp only [takeTextWithin, front, opened, readValue, bind, Except.bind, close,
      endText_iff.1 ends]
    rfl

theorem takeTextWithin_iff {depth : Nat} {s : List Char} {v : Value} {bare : Bool} :
    takeTextWithin depth s = .ok (v, bare) ↔ IndexText s v bare ∧ v.depth ≤ depth :=
  ⟨takeTextWithin_sound, fun ⟨text, shallow⟩ => takeTextWithin_complete text shallow⟩

theorem IndexText.ordered {s : List Char} {v : Value} {bare : Bool} (text : IndexText s v bare) :
    v.Ordered := by
  cases text with
  | alone _ value => exact value.ordered
  | call _ _ value => exact value.ordered

/-- The grammar is unambiguous: a text has one value and one answer about its keys. -/
theorem IndexText.unique {s : List Char} {v w : Value} {bare otherBare : Bool}
    (text : IndexText s v bare) (other : IndexText s w otherBare) : v = w ∧ bare = otherBare := by
  have readFirst := takeTextWithin_complete text (Nat.le_max_left v.depth w.depth)
  have readOther := takeTextWithin_complete other (Nat.le_max_right v.depth w.depth)
  cases readFirst.symm.trans readOther
  exact ⟨rfl, rfl⟩

theorem parse_eq_ok {source : String} {v : Value} {d : Dialect} :
    parse source = .ok (v, d) ↔
      ∃ bare, takeText source.toList = .ok (v, bare) ∧ d = if bare then .legacy else .json := by
  simp only [parse]
  cases takeText source.toList with
  | ok found =>
    obtain ⟨w, bare⟩ := found
    constructor
    · intro same
      cases same
      exact ⟨bare, rfl, rfl⟩
    · rintro ⟨_, same, rfl⟩
      cases same
      rfl
  | error fault => simp

/-- Reading an index text succeeds on the texts of the grammar with at most 128 containers inside
one another, and on no others. It returns the value that the grammar derives, and the legacy dialect
exactly if some key stands without quotes. -/
theorem parse_iff_indexText (source : String) (v : Value) (d : Dialect) :
    parse source = .ok (v, d) ↔
      ∃ bare, IndexText source.toList v bare ∧ v.depth ≤ 128 ∧
        d = if bare then .legacy else .json := by
  rw [parse_eq_ok]
  constructor
  · rintro ⟨bare, taken, rfl⟩
    obtain ⟨text, shallow⟩ := takeTextWithin_iff.1 taken
    exact ⟨bare, text, shallow, rfl⟩
  · rintro ⟨bare, text, shallow, rfl⟩
    exact ⟨bare, takeTextWithin_iff.2 ⟨text, shallow⟩, rfl⟩

end DocSearch.Literal
