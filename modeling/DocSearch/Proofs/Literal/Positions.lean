import DocSearch.Proofs.Literal.ByteValues

/- Where errors in index text are reported, and that reading it byte by byte stays between characters. -/
namespace DocSearch.Literal

/-- A place is counted right: `front` are the whole lines before it, and `last` is what stands before it
on its own line. -/
structure Position.Counted (source : String) (p : Position) (front last after : List Char) : Prop where
  parts : source.toList = (front ++ last) ++ after
  lines : front = [] ∨ ['\n'] <:+ front
  sameLine : '\n' ∉ last
  offset : p.offset = byteLength (front ++ last)
  line : p.line = 1 + (front ++ last).count '\n'
  column : p.column = 1 + last.length

theorem Position.afterReading_counted {source : String} {before after : List Char}
    (parts : source.toList = before ++ after) :
    ∃ front last, (afterReading before).Counted source front last after := by
  have newline := Bytes.lastNewline?_eq 0 before
  cases found : Bytes.lastNewline? 0 before with
  | none =>
    rw [found] at newline
    have column := Bytes.column_eq newline (Or.inl rfl)
    exact ⟨[], before, parts, Or.inl rfl, newline, rfl, Nat.add_comm _ _,
      column.trans (Nat.add_comm _ _)⟩
  | some n =>
    rw [found] at newline
    obtain ⟨front, last, cut, sameLine, -⟩ := newline
    have shape : before = (front ++ ['\n']) ++ last := by rw [cut, List.append_assoc]; rfl
    have ends : ['\n'] <:+ front ++ ['\n'] := List.suffix_append _ _
    have column := Bytes.column_eq sameLine (Or.inr ends)
    rw [shape] at parts ⊢
    exact ⟨front ++ ['\n'], last, parts, Or.inr ends, sameLine, rfl, Nat.add_comm _ _,
      column.trans (Nat.add_comm _ _)⟩

/-- The reader takes out whole characters only, whatever the text is: read byte by byte, with every piece
checked, the text gives what it gives character by character. An error is reported at a place between two
characters of the text, by its bytes, its line and its column. -/
theorem parse_between_characters (source : String) :
    Bytes.parse source = (parse source).mapError Bytes.Stop.reported ∧
    ∀ e, parse source = .error e →
      e.position.offset ≤ source.utf8ByteSize ∧
      (⟨e.position.offset⟩ : String.Pos.Raw).IsValid source ∧
      ∃ front last after, e.position.Counted source front last after := by
  refine ⟨Bytes.parse_eq source, ?_⟩
  intro e failed
  obtain ⟨before, after, parts, counted⟩ : ∃ before after, source.toList = before ++ after ∧
      e.position = Position.afterReading before := by
    rw [parse] at failed
    cases taken : takeText source.toList with
    | ok read =>
      rw [taken] at failed
      cases failed
    | error fault =>
      rw [taken] at failed
      cases failed
      exact ⟨_, _, (List.take_append_drop _ _).symm, rfl⟩
  have offset : e.position.offset = byteLength before := congrArg Position.offset counted
  have valid := isValid_byteLength parts
  rw [← offset] at valid
  rw [counted]
  obtain ⟨front, last, right⟩ := Position.afterReading_counted parts
  exact ⟨counted ▸ valid.le_utf8ByteSize, counted ▸ valid, front, last, after, right⟩

theorem parse_between_characters_beyond_ascii :
    let source := "[\"é\",\n\"\\é\"]"
    ∃ e, parse source = .error e ∧ e.position = ⟨9, 2, 3⟩ ∧
      (⟨e.position.offset⟩ : String.Pos.Raw).IsValid source ∧
      Bytes.parse source = .error (.reported e) := by
  intro source
  have failed : parse source = .error ⟨.unknownEscape, ⟨9, 2, 3⟩⟩ := by decide +kernel
  obtain ⟨same, places⟩ := parse_between_characters source
  rw [failed] at same
  exact ⟨_, failed, rfl, (places _ failed).2.1, same⟩

end DocSearch.Literal
