import DocSearch.Proofs.Literal.Places
import DocSearch.Proofs.Literal.WholeText

/- Two ways to read a text, side by side: taking characters off what is left, and going from place to
place. What is seen at a place is the next character, and a fault is reported where it shows. -/
namespace DocSearch.Literal.Bytes
variable {α β γ δ : Type} {source : String} {s t rest : List Char}

theorem ok_bind {ε : Type} (a : α) (f : α → Except ε β) : (.ok a : Except ε α) >>= f = f a := rfl

theorem map_eq_bind {ε : Type} (x : Except ε α) (f : α → β) :
    x.map f = x >>= fun a => .ok (f a) := by
  cases x <;> rfl

theorem map_bind {ε : Type} (x : Except ε α) (f : α → Except ε β) (g : β → γ) :
    (x >>= f).map g = x >>= fun a => (f a).map g := by
  cases x <;> rfl

/-- Reading by places does what taking characters off does: `left` is what a result leaves over, and
`seen` is the result with the place for it. -/
def Mirrors (source : String) (s : List Char) (left : α → List Char) (seen : α → β)
    (taken : Except Fault α) (read : Outcome β) : Prop :=
  match taken with
  | .ok a => left a <:+ s ∧ read = .ok (seen a)
  | .error fault => fault.rest <:+ s ∧ read = .error (.reported (fault.locate source.toList))

namespace Mirrors
variable {left : α → List Char} {seen : α → β} {left' : γ → List Char} {seen' : γ → δ}

theorem fail (flaw : Flaw) (suffix : rest <:+ s) (inText : s <:+ source.toList) :
    Mirrors source s left seen (.error ⟨flaw, rest⟩)
      (Bytes.fail source flaw (place source rest)) :=
  ⟨suffix, fail_eq flaw (suffix.trans inText)⟩

theorem mono {taken : Except Fault α} {read : Outcome β} (shorter : t <:+ s)
    (mirrors : Mirrors source t left seen taken read) : Mirrors source s left seen taken read := by
  cases taken with
  | ok a => exact ⟨mirrors.1.trans shorter, mirrors.2⟩
  | error fault => exact ⟨mirrors.1.trans shorter, mirrors.2⟩

/-- What is done with a result is mirrored where it is mirrored for each result; it may go back to a
place before what the result leaves over. -/
theorem bind_back {taken : Except Fault α} {read : Outcome β} {f : α → Except Fault γ}
    {g : β → Outcome δ} (mirrors : Mirrors source s left seen taken read)
    (later : ∀ a, taken = .ok a → left a <:+ s → Mirrors source s left' seen' (f a) (g (seen a))) :
    Mirrors source s left' seen' (taken >>= f) (read >>= g) := by
  cases taken with
  | ok a =>
    obtain ⟨suffix, same⟩ := mirrors
    rw [same]
    exact later a rfl suffix
  | error fault =>
    obtain ⟨suffix, same⟩ := mirrors
    rw [same]
    exact ⟨suffix, rfl⟩

theorem bind {taken : Except Fault α} {read : Outcome β} {f : α → Except Fault γ}
    {g : β → Outcome δ} (mirrors : Mirrors source s left seen taken read)
    (later : ∀ a, left a <:+ s → Mirrors source (left a) left' seen' (f a) (g (seen a))) :
    Mirrors source s left' seen' (taken >>= f) (read >>= g) :=
  bind_back mirrors fun a _ suffix => mono suffix (later a suffix)

theorem map {taken : Except Fault α} {f : α → γ} {read : Outcome δ}
    (mirrors : Mirrors source s (fun a => left' (f a)) (fun a => seen' (f a)) taken read) :
    Mirrors source s left' seen' (taken.map f) read := by
  cases taken with
  | ok a => exact mirrors
  | error fault => exact mirrors

theorem congr {taken : Except Fault α} {read : Outcome β} {seenToo : α → β}
    (mirrors : Mirrors source s left seen taken read) (same : ∀ a, seen a = seenToo a) :
    Mirrors source s left seenToo taken read := by
  rwa [← funext same]

end Mirrors

theorem peek_eq_iff (inText : s <:+ source.toList) {a : Char} (ascii : a.toNat < 128) :
    peek source (place source s) = some a ↔ ∃ rest, s = a :: rest := by
  cases s with
  | nil => simp [peek_nil]
  | cons c s =>
    obtain ⟨d, found, ⟨-, rfl⟩ | ⟨other, otherToo⟩⟩ := peek_cons inText
    · simp [found, eq_comm]
    · rw [found]
      constructor
      · intro same
        cases same
        omega
      · rintro ⟨rest, same⟩
        cases same
        omega

theorem peek_ne (inText : s <:+ source.toList) {a : Char} (ascii : a.toNat < 128)
    (other : ∀ rest, s ≠ a :: rest) : peek source (place source s) ≠ some a := by
  intro same
  obtain ⟨rest, begins⟩ := (peek_eq_iff inText ascii).1 same
  exact other rest begins

theorem uniform_of_ascii {test : Char → Bool} (ascii : ∀ c, test c = true → c.toNat < 128) :
    Uniform test := by
  have fails {c : Char} (other : 128 ≤ c.toNat) : test c = false := by
    cases passes : test c with
    | false => rfl
    | true =>
      have := ascii c passes
      omega
  intro c d other otherToo
  rw [fails other, fails otherToo]

theorem peek_any {test : Char → Bool} (ascii : ∀ c, test c = true → c.toNat < 128)
    (inText : s <:+ source.toList) : (peek source (place source s)).any test = s.head?.any test := by
  cases s with
  | nil =>
    rw [peek_nil]
    rfl
  | cons c s =>
    obtain ⟨d, found, letter⟩ := peek_cons inText
    rw [found]
    rcases letter with ⟨-, rfl⟩ | ⟨other, otherToo⟩
    · rfl
    · exact uniform_of_ascii ascii d c otherToo other

theorem place_succ {a : Char} (inText : a :: rest <:+ source.toList) (ascii : a.toNat < 128) :
    place source (a :: rest) + 1 = place source rest := by
  rw [place_cons inText, (utf8_ascii ascii).1]

theorem byteLength_ascii (ascii : ∀ c ∈ s, c.toNat < 128) : byteLength s = s.length := by
  induction s with
  | nil => rfl
  | cons c s ih =>
    obtain ⟨first, later⟩ := List.forall_mem_cons.1 ascii
    rw [byteLength_cons, (utf8_ascii first).1, ih later, List.length_cons, Nat.add_comm]

theorem after?_eq_none {word : List Char} (missing : ∀ rest, s ≠ word ++ rest) :
    Text.after? word s = none := by
  rw [Option.eq_none_iff_forall_ne_some]
  intro rest found
  exact missing rest (after?_eq_some.1 found)

theorem eat_eq (inText : s <:+ source.toList) (word : String) :
    eat source word (place source s) = .ok ((Text.after? word.toList s).map (place source)) := by
  have rest := slice_to_end inText
  rw [eat, rest]
  cases found : Text.after? word.toList s with
  | some after =>
    have parts := after?_eq_some.1 found
    have begins : Text.beginsWith word (String.ofList s) = true := by
      rw [Text.beginsWith, String.toList_ofList, List.isPrefixOf_iff_prefix]
      exact ⟨after, parts.symm⟩
    have behind := place_append (parts ▸ inText)
    rw [byteLength_toList, ← parts] at behind
    simp only [bind, Except.bind, pure, Except.pure, begins, if_true, Option.map_some, behind]
  | none =>
    have begins : ¬ Text.beginsWith word (String.ofList s) = true := by
      rw [Text.beginsWith, String.toList_ofList, List.isPrefixOf_iff_prefix]
      rintro ⟨after, parts⟩
      rw [after?_eq_some.2 parts.symm] at found
      cases found
    simp only [bind, Except.bind, pure, Except.pure, begins, if_false, Option.map_none,
      Bool.false_eq_true]

theorem expect_cons {a : Char} (inText : a :: rest <:+ source.toList) (ascii : a.toNat < 128) :
    expect source a (place source (a :: rest)) = .ok (place source rest) := by
  rw [expect, if_pos ((peek_eq_iff inText ascii).2 ⟨rest, rfl⟩), place_succ inText ascii]

theorem expect_other {a : Char} (inText : s <:+ source.toList) (ascii : a.toNat < 128)
    (other : ∀ rest, s ≠ a :: rest) :
    expect source a (place source s) = fail source (.missing a) (place source s) :=
  if_neg (peek_ne inText ascii other)

end DocSearch.Literal.Bytes
