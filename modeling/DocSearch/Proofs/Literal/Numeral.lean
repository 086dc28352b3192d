import DocSearch.Proofs.Except
import DocSearch.Proofs.Literal.Grammar
import DocSearch.Proofs.Text.Pieces

/- Space and numbers: what the reader takes off the front of a text is a piece that the grammar
allows there, and such a piece is taken whole unless the text behind it could prolong it. -/
namespace DocSearch.Literal
open Text (takeWhile_run dropWhile_run takeWhile_all)

theorem isSpace_iff (c : Char) : isSpace c = true ↔ c = ' ' ∨ c = '\t' ∨ c = '\n' ∨ c = '\r' := by
  simp [isSpace, or_assoc]

theorem spaces_iff (s : List Char) : Spaces s ↔ ∀ c ∈ s, isSpace c = true := by
  simp only [Spaces, isSpace_iff]

theorem spaces_nil : Spaces [] := by simp [Spaces]

theorem Spaces.append {s t : List Char} (left : Spaces s) (right : Spaces t) : Spaces (s ++ t) := by
  intro c member
  rcases List.mem_append.1 member with inLeft | inRight
  · exact left c inLeft
  · exact right c inRight

theorem exists_spaces (s : List Char) : ∃ before, Spaces before ∧ s = before ++ skipSpace s := by
  refine ⟨s.takeWhile isSpace, (spaces_iff _).2 (takeWhile_all s), ?_⟩
  exact (List.takeWhile_append_dropWhile).symm

theorem skipSpace_append {before s : List Char} (space : Spaces before)
    (stop : ∀ c ∈ s.head?, isSpace c = false) : skipSpace (before ++ s) = s :=
  dropWhile_run ((spaces_iff _).1 space) stop

theorem skipSpace_cons {before : List Char} (space : Spaces before) {c : Char} (rest : List Char)
    (stop : isSpace c = false) : skipSpace (before ++ c :: rest) = c :: rest := by
  apply skipSpace_append space
  intro d member
  cases member
  exact stop

theorem skipSpace_all {s : List Char} (space : Spaces s) : skipSpace s = [] := by
  have skipped : skipSpace (s ++ []) = [] := skipSpace_append space (by simp)
  rwa [List.append_nil] at skipped

theorem takeDigits_sound {flaw : Flaw} {s digits rest : List Char}
    (taken : takeDigits flaw s = .ok (digits, rest)) : Digits digits ∧ s = digits ++ rest := by
  simp only [takeDigits] at taken
  split at taken
  · cases taken
  · rename_i some
    cases taken
    refine ⟨⟨by simpa using some, takeWhile_all s⟩, ?_⟩
    exact (List.takeWhile_append_dropWhile).symm

theorem takeDigits_complete {digits rest : List Char} (flaw : Flaw) (valid : Digits digits)
    (stop : ∀ c ∈ rest.head?, c.isDigit = false) :
    takeDigits flaw (digits ++ rest) = .ok (digits, rest) := by
  simp [takeDigits, takeWhile_run valid.2 stop, dropWhile_run valid.2 stop, valid.1]

theorem Digits.head {digits : List Char} (valid : Digits digits) :
    ∃ d rest, digits = d :: rest ∧ d.isDigit = true := by
  cases digits with
  | nil => exact absurd rfl valid.1
  | cons d rest => exact ⟨d, rest, rfl, valid.2 d (by simp)⟩

theorem takeSign_append {s : List Char} (negative : Bool) (stop : ∀ c ∈ s.head?, c ≠ '-') :
    takeSign (signText negative ++ s) = (negative, s) := by
  cases negative with
  | true => rfl
  | false =>
    rw [signText, if_neg (by simp), List.nil_append, takeSign]
    rintro rest rfl
    exact stop '-' rfl rfl

theorem signText_takeSign (s : List Char) : s = signText (takeSign s).1 ++ (takeSign s).2 := by
  simp only [takeSign]
  split <;> rfl

theorem takeFraction_sound {s rest : List Char} {fraction : Option (List Char)}
    (taken : takeFraction s = .ok (fraction, rest)) :
    ∃ t, FractionText t fraction ∧ s = t ++ rest := by
  simp only [takeFraction] at taken
  split at taken
  · obtain ⟨⟨digits, after⟩, read, same⟩ := map_eq_ok.1 taken
    cases same
    obtain ⟨valid, rfl⟩ := takeDigits_sound read
    exact ⟨'.' :: digits, .present valid, rfl⟩
  · cases taken
    exact ⟨[], .absent, rfl⟩

theorem takeFraction_complete {t rest : List Char} {fraction : Option (List Char)}
    (spelled : FractionText t fraction) (stop : ∀ c ∈ rest.head?, c.isDigit = false ∧ c ≠ '.') :
    takeFraction (t ++ rest) = .ok (fraction, rest) := by
  cases spelled with
  | absent =>
    rw [List.nil_append, takeFraction]
    rintro more rfl
    exact (stop '.' rfl).2 rfl
  | present valid =>
    rw [List.cons_append, takeFraction,
      takeDigits_complete _ valid fun c member => (stop c member).1]
    rfl

theorem takeExponent_sound {s rest : List Char} {exponent : Option (Bool × List Char)}
    (taken : takeExponent s = .ok (exponent, rest)) :
    ∃ t, ExponentText t exponent ∧ s = t ++ rest := by
  cases s with
  | nil =>
    cases taken
    exact ⟨[], .absent, rfl⟩
  | cons e more =>
    simp only [takeExponent] at taken
    split at taken
    · rename_i letter
      have letter : e = 'e' ∨ e = 'E' := by simpa using letter
      obtain ⟨⟨digits, after⟩, read, same⟩ := map_eq_ok.1 taken
      cases same
      split at read
      · obtain ⟨valid, rfl⟩ := takeDigits_sound read
        exact ⟨e :: '+' :: digits, .positive letter valid, rfl⟩
      · have split := signText_takeSign more
        generalize takeSign more = sign at read split ⊢
        obtain ⟨negative, unsigned⟩ := sign
        obtain ⟨valid, rfl⟩ := takeDigits_sound read
        subst split
        cases negative with
        | true => exact ⟨e :: '-' :: digits, .negative letter valid, rfl⟩
        | false => exact ⟨e :: digits, .unsigned letter valid, rfl⟩
    · cases taken
      exact ⟨[], .absent, rfl⟩

theorem isDigit_ne {d c : Char} (digit : d.isDigit = true) (other : c.isDigit = false) : d ≠ c := by
  rintro rfl
  rw [digit] at other
  cases other

theorem takeExponent_complete {t rest : List Char} {exponent : Option (Bool × List Char)}
    (spelled : ExponentText t exponent)
    (stop : ∀ c ∈ rest.head?, c.isDigit = false ∧ c ≠ 'e' ∧ c ≠ 'E') :
    takeExponent (t ++ rest) = .ok (exponent, rest) := by
  have digitsTaken (digits : List Char) (valid : Digits digits) :=
    takeDigits_complete .missingExponentDigits valid fun c member => (stop c member).1
  cases spelled with
  | absent =>
    cases rest with
    | nil => rfl
    | cons c rest => simp [takeExponent, (stop c rfl).2]
  | unsigned letter valid =>
    obtain ⟨d, more, rfl, digit⟩ := valid.head
    have noPlus : d ≠ '+' := isDigit_ne digit rfl
    have noMinus : d ≠ '-' := isDigit_ne digit rfl
    have read := digitsTaken _ valid
    rw [List.cons_append] at read
    simp [takeExponent, letter, noPlus, takeSign, noMinus, read, Except.map]
  | positive letter valid => simp [takeExponent, letter, digitsTaken _ valid, Except.map]
  | negative letter valid => simp [takeExponent, letter, takeSign, digitsTaken _ valid, Except.map]

def NumberEnd (rest : List Char) : Prop :=
  ∀ c ∈ rest.head?, c.isDigit = false ∧ c ≠ '.' ∧ c ≠ 'e' ∧ c ≠ 'E'

theorem takeNumberToken_sound {s rest : List Char} {token : NumberToken}
    (taken : takeNumberToken s = .ok (token, rest)) : ∃ t, NumberText t token ∧ s = t ++ rest := by
  obtain ⟨⟨whole, s₁⟩, readWhole, taken⟩ := bind_eq_ok.1 taken
  obtain ⟨⟨fraction, s₂⟩, readFraction, taken⟩ := bind_eq_ok.1 taken
  obtain ⟨⟨exponent, s₃⟩, readExponent, taken⟩ := bind_eq_ok.1 taken
  cases pure_eq_ok.1 taken
  obtain ⟨valid, split⟩ := takeDigits_sound readWhole
  obtain ⟨f, fractional, rfl⟩ := takeFraction_sound readFraction
  obtain ⟨e, scientific, rfl⟩ := takeExponent_sound readExponent
  refine ⟨signText (takeSign s).1 ++ (whole ++ (f ++ e)), .parts valid fractional scientific, ?_⟩
  rw [List.append_assoc, List.append_assoc, List.append_assoc, ← split]
  exact signText_takeSign s

theorem ExponentText.head {t rest : List Char} {exponent : Option (Bool × List Char)}
    (spelled : ExponentText t exponent) (stop : NumberEnd rest) :
    ∀ c ∈ (t ++ rest).head?, c.isDigit = false ∧ c ≠ '.' := by
  intro c member
  cases spelled with
  | absent => exact ⟨(stop c member).1, (stop c member).2.1⟩
  | unsigned letter | positive letter | negative letter =>
    cases member
    rcases letter with rfl | rfl <;> decide

theorem FractionText.head {t rest : List Char} {fraction : Option (List Char)}
    (spelled : FractionText t fraction) (stop : ∀ c ∈ rest.head?, c.isDigit = false) :
    ∀ c ∈ (t ++ rest).head?, c.isDigit = false := by
  intro c member
  cases spelled with
  | absent => exact stop c member
  | present => cases member; rfl

theorem takeNumberToken_complete {t rest : List Char} {token : NumberToken}
    (spelled : NumberText t token) (stop : NumberEnd rest) :
    takeNumberToken (t ++ rest) = .ok (token, rest) := by
  obtain ⟨valid, fractional, scientific⟩ := spelled
  rename_i negative whole f e fraction exponent
  have afterFraction := scientific.head stop
  have afterWhole := fractional.head fun c member => (afterFraction c member).1
  have noSign : ∀ c ∈ (whole ++ (f ++ (e ++ rest))).head?, c ≠ '-' := by
    obtain ⟨d, more, rfl, digit⟩ := valid.head
    intro c member
    cases member
    exact isDigit_ne digit rfl
  have readWhole := takeDigits_complete .missingDigits valid afterWhole
  have readFraction := takeFraction_complete fractional afterFraction
  have readExponent := takeExponent_complete scientific fun c member =>
    ⟨(stop c member).1, (stop c member).2.2⟩
  simp only [List.append_assoc, takeNumberToken, takeSign_append negative noSign, readWhole,
    readFraction, readExponent, bind, Except.bind, pure, Except.pure]

namespace NumberToken

theorem ofInt?_eq_some {z : Int} {n : Integer} : Integer.ofInt? z = some n ↔ n.val = z := by
  simp only [Integer.ofInt?]
  constructor
  · intro found
    split at found
    · cases found; rfl
    · cases found
  · rintro rfl
    rw [dif_pos n.inRange]

def rounded? (token : NumberToken) : Option Number :=
  (Double.ofDecimal? token.negative token.significand token.scale).map .real

theorem number?_eq (token : NumberToken) :
    token.number? = if token.fraction.isNone && token.exponent.isNone then
      match Integer.ofInt? token.wholeValue with
      | some n => some (.integer n)
      | none => token.rounded?
    else token.rounded? := rfl

theorem number?_sound {token : NumberToken} {n : Number} (value : token.number? = some n) :
    token.Denotes n := by
  rw [number?_eq] at value
  split at value
  · rename_i whole
    split at value
    · rename_i m found
      cases value
      exact .exact m (by simpa [IsWhole] using whole) (ofInt?_eq_some.1 found)
    · rename_i none
      obtain ⟨x, nearest, rfl⟩ := Option.map_eq_some_iff.1 value
      refine .rounded x (fun _ m same => ?_) nearest
      rw [ofInt?_eq_some.2 same] at none
      cases none
  · rename_i part
    obtain ⟨x, nearest, rfl⟩ := Option.map_eq_some_iff.1 value
    exact .rounded x (fun whole => absurd (by simpa [IsWhole] using whole) part) nearest

theorem number?_complete {token : NumberToken} {n : Number} (meant : token.Denotes n) :
    token.number? = some n := by
  rw [number?_eq]
  cases meant with
  | exact m whole same => simp [whole.1, whole.2, ofInt?_eq_some.2 same]
  | rounded x inexact nearest =>
    have value : token.rounded? = some (.real x) := Option.map_eq_some_iff.2 ⟨x, nearest, rfl⟩
    split
    · rename_i whole
      split
      · rename_i m found
        exact absurd (ofInt?_eq_some.1 found) (inexact (by simpa [IsWhole] using whole) m)
      · exact value
    · exact value

end NumberToken

theorem takeNumber_sound {s rest : List Char} {n : Number} (taken : takeNumber s = .ok (n, rest)) :
    ∃ t token, NumberText t token ∧ token.Denotes n ∧ s = t ++ rest := by
  obtain ⟨⟨token, after⟩, read, taken⟩ := bind_eq_ok.1 taken
  obtain ⟨t, spelled, rfl⟩ := takeNumberToken_sound read
  cases value : token.number? with
  | none => simp [value, throw_ne_ok] at taken
  | some m =>
    simp only [value, pure_eq_ok] at taken
    cases taken
    exact ⟨t, token, spelled, token.number?_sound value, rfl⟩

theorem takeNumber_complete {t rest : List Char} {token : NumberToken} {n : Number}
    (spelled : NumberText t token) (meant : token.Denotes n) (stop : NumberEnd rest) :
    takeNumber (t ++ rest) = .ok (n, rest) := by
  refine bind_eq_ok.2 ⟨(token, rest), takeNumberToken_complete spelled stop, ?_⟩
  simp [token.number?_complete meant, pure_eq_ok]

end DocSearch.Literal
