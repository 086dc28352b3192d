import DocSearch.Proofs.Literal.ByteStrings

/- Numbers, read byte by byte: the digits are passed first, and the text of the number is taken out at
once when its end is known. -/
namespace DocSearch.Literal.Bytes
variable {source : String} {s rest : List Char}

theorem isDigit_ascii {c : Char} (digit : c.isDigit = true) : c.toNat < 128 := by
  have high : c.toNat ≤ '~'.toNat := (isAlphanum_printable (by simp [Char.isAlphanum, digit])).2
  exact Nat.lt_of_le_of_lt high (by decide)

theorem readDigits_mirrors (flaw : Flaw) (inText : s <:+ source.toList) :
    Mirrors source s Prod.snd (fun (_, rest) => place source rest) (takeDigits flaw s)
      (readDigits source flaw (place source s)) := by
  have parts := List.takeWhile_append_dropWhile (p := Char.isDigit) (l := s)
  have moved := place_append (parts ▸ inText)
  rw [parts] at moved
  rw [readDigits, passAll_eq (uniform_of_ascii fun _ => isDigit_ascii) inText, takeDigits]
  cases digits : s.takeWhile Char.isDigit with
  | nil =>
    rw [digits, List.nil_append] at parts
    rw [parts, if_neg (Nat.lt_irrefl _)]
    exact .fail _ (List.suffix_refl _) inText
  | cons d more =>
    have size := d.utf8Size_pos
    rw [digits, byteLength_cons] at moved
    have later : place source s < place source (s.dropWhile Char.isDigit) := by omega
    rw [if_pos later]
    exact ⟨List.dropWhile_suffix _, rfl⟩

theorem takeSign_place (inText : s <:+ source.toList) : (takeSign s).2 <:+ s ∧
    (if peek source (place source s) = some '-' then place source s + 1 else place source s) =
      place source (takeSign s).2 := by
  by_cases negative : ∃ rest, s = '-' :: rest
  · rw [if_pos ((peek_eq_iff inText (by decide)).2 negative)]
    obtain ⟨rest, rfl⟩ := negative
    exact ⟨List.suffix_cons _ _, place_succ inText (by decide)⟩
  · have same : takeSign s = (false, s) := by
      unfold takeSign
      split
      · exact absurd ⟨_, rfl⟩ negative
      · rfl
    rw [if_neg (mt (peek_eq_iff inText (by decide)).1 negative), same]
    exact ⟨List.suffix_refl s, rfl⟩

theorem readFraction_mirrors (inText : s <:+ source.toList) :
    Mirrors source s Prod.snd (fun (_, rest) => place source rest) (takeFraction s)
      (readFraction source (place source s)) := by
  by_cases point : ∃ rest, s = '.' :: rest
  · rw [readFraction, if_pos ((peek_eq_iff inText (by decide)).2 point)]
    obtain ⟨rest, rfl⟩ := point
    rw [place_succ inText (by decide), takeFraction]
    exact .map (.mono (List.suffix_cons _ _) (readDigits_mirrors _ (suffix_of_cons inText)))
  · have whole : takeFraction s = .ok (none, s) := by
      unfold takeFraction
      split
      · exact absurd ⟨_, rfl⟩ point
      · rfl
    rw [readFraction, if_neg (mt (peek_eq_iff inText (by decide)).1 point), whole]
    exact ⟨List.suffix_refl s, rfl⟩

def takePlus (s : List Char) : Bool × List Char :=
  match s with
  | '+' :: rest => (false, rest)
  | rest => takeSign rest

theorem takePlus_place (inText : s <:+ source.toList) : (takePlus s).2 <:+ s ∧
    (if (peek source (place source s)).any (fun c => c = '+' || c = '-') then place source s + 1
      else place source s) = place source (takePlus s).2 := by
  rw [peek_any (by simp) inText]
  cases s with
  | nil => exact ⟨List.suffix_refl _, rfl⟩
  | cons c rest =>
    by_cases plus : c = '+'
    · subst plus
      exact ⟨List.suffix_cons _ _, place_succ inText (by decide)⟩
    · by_cases minus : c = '-'
      · subst minus
        exact ⟨List.suffix_cons _ _, place_succ inText (by decide)⟩
      · have same : takePlus (c :: rest) = (false, c :: rest) := by
          simp [takePlus, takeSign, plus, minus]
        rw [same, if_neg (by simp [plus, minus])]
        exact ⟨List.suffix_refl _, rfl⟩

theorem readExponent_mirrors (inText : s <:+ source.toList) :
    Mirrors source s Prod.snd (fun (_, rest) => place source rest) (takeExponent s)
      (readExponent source (place source s)) := by
  rw [readExponent, peek_any (by simp) inText]
  cases s with
  | nil => exact ⟨List.suffix_refl _, rfl⟩
  | cons e rest =>
    by_cases letter : e = 'e' ∨ e = 'E'
    · have ascii : e.toNat < 128 := by rcases letter with rfl | rfl <;> decide
      have taken : takeExponent (e :: rest) = (takeDigits .missingExponentDigits (takePlus rest).2).map
          fun (digits, after) => (some ((takePlus rest).1, digits), after) := by
        unfold takeExponent
        dsimp only
        rw [if_pos (by simpa using letter)]
        split
        · rfl
        · rename_i noPlus
          have same : takePlus rest = takeSign rest := by
            unfold takePlus
            split
            · exact absurd rfl (noPlus _)
            · rfl
          rw [same]
      obtain ⟨shorter, signed⟩ := takePlus_place (suffix_of_cons inText)
      rw [taken, if_pos (by simpa using letter), place_succ inText ascii]
      dsimp only
      rw [signed]
      have behind := shorter.trans (List.suffix_cons e rest)
      exact .map (.mono behind (readDigits_mirrors _ (behind.trans inText)))
    · have whole : takeExponent (e :: rest) = .ok (none, e :: rest) := by
        unfold takeExponent
        exact if_neg (by simpa using letter)
      rw [whole, if_neg (by simpa using letter)]
      exact ⟨List.suffix_refl _, rfl⟩

theorem readToken_mirrors (inText : s <:+ source.toList) :
    Mirrors source s Prod.snd (fun (_, rest) => place source rest) (takeNumberToken s)
      (readToken source (place source s)) := by
  obtain ⟨shorter, unsigned⟩ := takeSign_place inText
  rw [takeNumberToken, readToken, unsigned]
  refine .mono shorter (.bind (readDigits_mirrors _ (shorter.trans inText)) ?_)
  intro digits suffix
  obtain ⟨whole, afterWhole⟩ := digits
  have inText := suffix.trans (shorter.trans inText)
  refine .bind (readFraction_mirrors inText) fun read suffix => ?_
  obtain ⟨fraction, afterFraction⟩ := read
  have exponent := readExponent_mirrors (suffix.trans inText)
  dsimp only at exponent ⊢
  cases taken : takeExponent afterFraction with
  | error fault =>
    rw [taken] at exponent
    exact exponent
  | ok result =>
    rw [taken] at exponent
    exact exponent

theorem number?_eq_token {token : NumberToken} (taken : takeNumberToken s = .ok (token, rest)) :
    ∃ text, s = text ++ rest ∧ number? (String.ofList text) = token.number? := by
  obtain ⟨text, spelled, parts⟩ := takeNumberToken_sound taken
  have again := takeNumberToken_complete spelled numberEnd_nil
  rw [List.append_nil] at again
  refine ⟨text, parts, ?_⟩
  rw [number?, String.toList_ofList, again]

theorem readNumber_mirrors (inText : s <:+ source.toList) :
    Mirrors source s Prod.snd (fun (n, rest) => (n, place source rest)) (takeNumber s)
      (readNumber source (place source s)) := by
  rw [takeNumber, readNumber]
  refine .bind_back (readToken_mirrors inText) fun read taken suffix => ?_
  obtain ⟨token, rest⟩ := read
  obtain ⟨text, parts, again⟩ := number?_eq_token taken
  have cut := slice_eq (parts ▸ inText)
  rw [← parts] at cut
  dsimp only
  rw [cut, ok_bind, again]
  cases token.number? with
  | some n => exact ⟨suffix, rfl⟩
  | none => exact .fail _ (List.suffix_refl s) inText

end DocSearch.Literal.Bytes
