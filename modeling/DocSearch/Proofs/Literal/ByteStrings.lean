import DocSearch.Proofs.Literal.Ascii
import DocSearch.Proofs.Literal.Mirrors

/- Strings and keys, read byte by byte. A run of plain characters is passed byte by byte and taken out at
once; behind a backslash a byte is passed before it is known what it is. -/
namespace DocSearch.Literal.Bytes
variable {source : String} {s : List Char}

theorem hexDigit_ascii {c : Char} (digit : isHexDigit c = true) : c.toNat < 128 := by
  obtain ⟨n, value⟩ := Option.isSome_iff_exists.1 digit
  obtain ⟨bound, rfl | rfl⟩ := hexDigit_of_value value
  · interval_cases n <;> decide
  · interval_cases n <;> decide

theorem hexValue?_eq (a b c d : Char) : hexValue? a b c d =
    if [a, b, c, d].all isHexDigit then some (hexNumber (String.ofList [a, b, c, d])) else none := by
  simp only [hexValue?, isHexDigit, hexNumber, String.toList_ofList, List.all_cons, List.all_nil,
    List.foldl_cons, List.foldl_nil]
  generalize hexDigitValue? a = w, hexDigitValue? b = x, hexDigitValue? c = y, hexDigitValue? d = z
  cases w <;> cases x <;> cases y <;> cases z <;> simp

def takeHex : List Char → Except Fault (Nat × List Char)
  | a :: b :: c :: d :: rest =>
    match hexValue? a b c d with
    | some n => .ok (n, rest)
    | none => .error ⟨.missingHexDigits, a :: b :: c :: d :: rest⟩
  | s => .error ⟨.missingHexDigits, s⟩

theorem takeHex_cases (s : List Char) :
    (∃ a b c d rest, s = [a, b, c, d] ++ rest ∧ [a, b, c, d].all isHexDigit = true ∧
      takeHex s = .ok (hexNumber (String.ofList [a, b, c, d]), rest)) ∨
    (∀ a b c d rest, s = [a, b, c, d] ++ rest → ¬ [a, b, c, d].all isHexDigit = true) ∧
      takeHex s = .error ⟨.missingHexDigits, s⟩ := by
  match s with
  | [] | [_] | [_, _] | [_, _, _] => exact Or.inr ⟨by simp, rfl⟩
  | a :: b :: c :: d :: rest =>
    have value := hexValue?_eq a b c d
    by_cases digits : [a, b, c, d].all isHexDigit = true
    · rw [if_pos digits] at value
      exact Or.inl ⟨a, b, c, d, rest, rfl, digits, by rw [takeHex, value]⟩
    · rw [if_neg digits] at value
      refine Or.inr ⟨?_, by rw [takeHex, value]⟩
      intro e f g h more same
      cases same
      exact digits

/-- Four bytes are four digits, or nothing is read: then a character may end elsewhere. -/
theorem readHex_mirrors (inText : s <:+ source.toList) :
    Mirrors source s Prod.snd (fun (n, rest) => (n, place source rest)) (takeHex s)
      (readHex source (place source s)) := by
  have four {digits : List Char} (all : digits.all isHexDigit = true) :
      byteLength digits = digits.length :=
    byteLength_ascii fun c member => hexDigit_ascii (List.all_eq_true.1 all c member)
  rcases takeHex_cases s with ⟨a, b, c, d, rest, rfl, digits, taken⟩ | ⟨none, taken⟩
  · have behind := place_append inText
    rw [four digits] at behind
    have cut := slice?_eq inText
    rw [behind] at cut
    have kept : (some (String.ofList [a, b, c, d])).filter (·.toList.all isHexDigit) =
        some (String.ofList [a, b, c, d]) := by
      rw [Option.filter_some, String.toList_ofList, if_pos digits]
    rw [taken, readHex]
    simp only [List.length_cons, List.length_nil, Nat.zero_add, Nat.reduceAdd] at cut behind
    rw [cut, kept]
    exact ⟨List.suffix_append _ _, by simp only [behind]⟩
  · rw [taken, readHex]
    cases read : (slice? source (place source s) (place source s + 4)).filter
        (·.toList.all isHexDigit) with
    | none => exact .fail _ (List.suffix_refl s) inText
    | some digits =>
      obtain ⟨cut, all⟩ := Option.filter_eq_some_iff.1 read
      obtain ⟨rest, parts, behind⟩ := slice?_eq_some inText cut
      have size := place_append (parts ▸ inText)
      rw [← parts, behind, four all] at size
      have count : digits.toList.length = 4 := by omega
      obtain ⟨a, b, c, d, letters⟩ := List.length_eq_four.1 count
      rw [letters] at parts all
      exact absurd all (none a b c d rest parts)

def takeCode (s : List Char) : Except Fault (Nat × List Char) := do
  let (high, rest) ← takeHex s
  if isHighSurrogate high then
    match Text.after? "\\u".toList rest with
    | none => throw ⟨.unpairedHighSurrogate, rest⟩
    | some more =>
      let (low, rest) ← takeHex more
      if isLowSurrogate low then return (pairCode high low, rest)
      else throw ⟨.invalidLowSurrogate, rest⟩
  else return (high, rest)

def ofCode (n : Nat) (rest : List Char) : Except Fault (Char × List Char) :=
  match char? n with
  | some c => .ok (c, rest)
  | none => .error ⟨.invalidUnicodeEscape, rest⟩

def takeUnicode (s : List Char) : Except Fault (Char × List Char) := do
  let code ← takeCode s
  ofCode code.1 code.2

def takeEscape : List Char → Except Fault (Char × List Char)
  | [] => .error ⟨.unterminatedEscape, []⟩
  | c :: rest =>
    if c = 'u' then takeUnicode rest
    else match escapedChar? c with
      | some e => .ok (e, rest)
      | none => .error ⟨.unknownEscape, c :: rest⟩

theorem char?_low {n : Nat} (low : isLowSurrogate n = true) : char? n = none := by
  rw [lowSurrogate_iff, LowSurrogate] at low
  apply if_neg
  unfold Nat.isValidChar
  omega

theorem char?_pair {high low : Nat} (isHigh : isHighSurrogate high = true)
    (isLow : isLowSurrogate low = true) :
    char? (pairCode high low) = some (ofSurrogates high low) := by
  rw [highSurrogate_iff, HighSurrogate] at isHigh
  rw [lowSurrogate_iff, LowSurrogate] at isLow
  apply if_pos
  unfold Nat.isValidChar pairCode
  omega

theorem char?_unit {a b c d : Char} {n : Nat} (value : hexValue? a b c d = some n)
    (notHigh : isHighSurrogate n = false) (notLow : isLowSurrogate n = false) :
    char? n = some (Char.ofNat n) := by
  have high := mt (highSurrogate_iff n).2 (by simp [notHigh])
  have low := mt (lowSurrogate_iff n).2 (by simp [notLow])
  have bound : n < 0x10000 := by
    cases hexUnit_of_value value with
    | digits first second third fourth =>
      have := first.1
      have := second.1
      have := third.1
      have := fourth.1
      omega
  unfold HighSurrogate at high
  unfold LowSurrogate at low
  apply if_pos
  unfold Nat.isValidChar
  omega

theorem takeString_half {a b c d : Char} {high : Nat} (value : hexValue? a b c d = some high)
    (isHigh : isHighSurrogate high = true) (s : List Char) :
    takeString ('\\' :: 'u' :: a :: b :: c :: d :: '\\' :: 'u' :: s) =
      takeHex s >>= fun (low, rest) =>
        if isLowSurrogate low then consChar (ofSurrogates high low) (takeString rest)
        else .error ⟨.invalidLowSurrogate, rest⟩ := by
  match s with
  | [] | [_] | [_, _] | [_, _, _] => simp only [takeString, value, isHigh, if_true, takeHex]; rfl
  | e :: f :: g :: h :: rest =>
    simp only [takeString, value, isHigh, if_true, takeHex]
    cases hexValue? e f g h <;> rfl

theorem takeString_unpaired {a b c d : Char} {high : Nat} (value : hexValue? a b c d = some high)
    (isHigh : isHighSurrogate high = true) {rest : List Char}
    (unpaired : ∀ more, rest ≠ '\\' :: 'u' :: more) :
    takeString ('\\' :: 'u' :: a :: b :: c :: d :: rest) =
      .error ⟨.unpairedHighSurrogate, rest⟩ := by
  simp only [takeString, value, isHigh, if_true]
  split
  · exact absurd rfl (unpaired _)
  · exact absurd rfl (unpaired _)
  · rfl

theorem takeCode_hex {a b c d : Char} {n : Nat} (value : hexValue? a b c d = some n)
    (rest : List Char) : takeCode (a :: b :: c :: d :: rest) =
      if isHighSurrogate n then
        match Text.after? "\\u".toList rest with
        | none => .error ⟨.unpairedHighSurrogate, rest⟩
        | some more => takeHex more >>= fun (low, rest) =>
          if isLowSurrogate low then .ok (pairCode n low, rest)
          else .error ⟨.invalidLowSurrogate, rest⟩
      else .ok (n, rest) := by
  rw [takeCode, takeHex, value]
  rfl

theorem ofCode_eq {n : Nat} {c : Char} (found : char? n = some c) (rest : List Char) :
    ofCode n rest = .ok (c, rest) := by
  rw [ofCode, found]

theorem takeString_unicode (s : List Char) : takeString ('\\' :: 'u' :: s) =
    takeUnicode s >>= fun (c, rest) => consChar c (takeString rest) := by
  rw [takeUnicode, bind_assoc]
  match s with
  | [] | [_] | [_, _] | [_, _, _] => rfl
  | a :: b :: c :: d :: rest =>
    cases value : hexValue? a b c d with
    | none =>
      rw [takeCode, takeHex, value]
      simp only [takeString, value]
      rfl
    | some unit =>
      rw [takeCode_hex value]
      cases high : isHighSurrogate unit with
      | true =>
        rw [if_pos rfl]
        cases found : Text.after? "\\u".toList rest with
        | some more =>
          have parts : rest = '\\' :: 'u' :: more := after?_eq_some.1 found
          rw [parts, takeString_half value high]
          dsimp only
          cases takeHex more with
          | error fault => rfl
          | ok half =>
            rw [ok_bind, ok_bind]
            cases low : isLowSurrogate half.1 with
            | true =>
              rw [if_pos rfl, if_pos rfl, ok_bind, ofCode_eq (char?_pair high low), ok_bind]
            | false => rfl
        | none =>
          have unpaired : ∀ more, rest ≠ '\\' :: 'u' :: more := by
            intro more same
            rw [same] at found
            cases found
          rw [takeString_unpaired value high unpaired]
          rfl
      | false =>
        rw [if_neg Bool.false_ne_true, takeString, value, ok_bind]
        dsimp only
        rw [high, if_neg Bool.false_ne_true]
        cases low : isLowSurrogate unit with
        | true => rw [if_pos rfl, ofCode, char?_low low]; rfl
        | false => rw [if_neg Bool.false_ne_true, ofCode_eq (char?_unit value high low), ok_bind]

theorem takeString_backslash (s : List Char) : takeString ('\\' :: s) =
    takeEscape s >>= fun (c, rest) => consChar c (takeString rest) := by
  match s with
  | [] => rfl
  | c :: rest =>
    by_cases unicode : c = 'u'
    · rw [unicode, takeString_unicode, takeEscape, if_pos rfl]
    · rw [takeEscape, if_neg unicode, takeString]
      · cases escapedChar? c <;> rfl
      all_goals simp [unicode]

theorem readCode_mirrors (inText : s <:+ source.toList) :
    Mirrors source s Prod.snd (fun (n, rest) => (n, place source rest)) (takeCode s)
      (readCode source (place source s)) := by
  refine .bind (readHex_mirrors inText) fun first suffix => ?_
  obtain ⟨high, rest⟩ := first
  have inText := suffix.trans inText
  dsimp only
  split
  · rw [eat_eq inText, ok_bind]
    cases found : Text.after? "\\u".toList rest with
    | none => exact .fail _ (List.suffix_refl rest) inText
    | some more =>
      have shorter : more <:+ rest := ⟨_, (after?_eq_some.1 found).symm⟩
      refine .mono shorter (.bind (readHex_mirrors (shorter.trans inText)) ?_)
      intro second suffix
      obtain ⟨low, rest⟩ := second
      dsimp only
      split
      · exact ⟨List.suffix_refl _, rfl⟩
      · exact .fail _ (List.suffix_refl rest) (suffix.trans (shorter.trans inText))
  · exact ⟨List.suffix_refl _, rfl⟩

theorem readUnicode_mirrors (inText : s <:+ source.toList) :
    Mirrors source s Prod.snd (fun (c, rest) => (c, place source rest)) (takeUnicode s)
      (readUnicode source (place source s)) := by
  refine .bind (readCode_mirrors inText) fun code suffix => ?_
  obtain ⟨n, rest⟩ := code
  dsimp only [ofCode]
  cases char? n with
  | some c => exact ⟨List.suffix_refl _, rfl⟩
  | none => exact .fail _ (List.suffix_refl rest) (suffix.trans inText)

theorem escapedChar?_other {c : Char} (other : 128 ≤ c.toNat) : escapedChar? c = none := by
  cases known : escapedChar? c with
  | none => rfl
  | some e =>
    have ascii : ∀ pair ∈ escapes, pair.1.toNat < 128 := by decide
    have letter : c.toNat < 128 := ascii (c, e) (escapedChar?_eq_some known)
    omega

theorem readEscape_mirrors (inText : s <:+ source.toList) :
    Mirrors source s Prod.snd (fun (c, rest) => (c, place source rest)) (takeEscape s)
      (readEscape source (place source s)) := by
  cases s with
  | nil =>
    rw [readEscape, peek_nil]
    exact .fail _ (List.suffix_refl _) inText
  | cons c rest =>
    have shorter := List.suffix_cons c rest
    obtain ⟨d, found, ⟨ascii, rfl⟩ | ⟨other, otherToo⟩⟩ := peek_cons inText
    · rw [readEscape, found, takeEscape]
      dsimp only
      split
      · rw [place_succ inText ascii]
        exact .mono shorter (readUnicode_mirrors (shorter.trans inText))
      · cases escapedChar? d with
        | some e =>
          rw [place_succ inText ascii]
          exact ⟨shorter, rfl⟩
        | none =>
          dsimp only
          rw [Nat.add_sub_cancel]
          exact .fail _ (List.suffix_refl _) inText
    · have letter {a : Char} (isOther : 128 ≤ a.toNat) : a ≠ 'u' := by
        rintro rfl
        revert isOther
        decide
      rw [readEscape, found, takeEscape, if_neg (letter other), escapedChar?_other other]
      dsimp only
      rw [if_neg (letter otherToo), escapedChar?_other otherToo]
      dsimp only
      rw [Nat.add_sub_cancel]
      exact .fail _ (List.suffix_refl _) inText

theorem uniform_isPlain : Uniform isPlain := by
  have passes {c : Char} (other : 128 ≤ c.toNat) : isPlain c = true := by
    have quote : c ≠ '"' := by
      rintro rfl
      revert other
      decide
    have backslash : c ≠ '\\' := by
      rintro rfl
      revert other
      decide
    simp [isPlain, quote, backslash]
    omega
  intro c d other otherToo
  rw [passes other, passes otherToo]

theorem takeString_run (s : List Char) : takeString s =
    (takeString (s.dropWhile isPlain)).map fun (text, rest) => (s.takeWhile isPlain ++ text, rest) := by
  induction s with
  | nil => rfl
  | cons c s ih =>
    by_cases plain : isPlain c = true
    · have parts : c ≠ '"' ∧ c ≠ '\\' ∧ 0x20 ≤ c.toNat := by
        simpa [isPlain, and_assoc] using plain
      rw [takeString_raw s parts.2.2 parts.1 parts.2.1, ih, List.dropWhile_cons_of_pos plain,
        List.takeWhile_cons_of_pos plain, consChar]
      cases takeString (s.dropWhile isPlain) <;> rfl
    · rw [List.dropWhile_cons_of_neg plain, List.takeWhile_cons_of_neg plain]
      cases takeString (c :: s) <;> rfl

theorem takeString_control {c : Char} (s : List Char) (control : c.toNat < 0x20) :
    takeString (c :: s) = .error ⟨.controlCharacter, c :: s⟩ := by
  have other {a : Char} (high : 0x20 ≤ a.toNat) : c ≠ a := by
    rintro rfl
    omega
  have quote : c ≠ '"' := other (by decide)
  have backslash : c ≠ '\\' := other (by decide)
  rw [takeString]
  · rw [if_pos control]
  all_goals simp [quote, backslash]

theorem readText_mirrors (inText : s <:+ source.toList) (fuel : Nat) (enough : s.length < fuel)
    (out : List Char) :
    Mirrors source s Prod.snd (fun (text, rest) => (out ++ text, place source rest)) (takeString s)
      (readText source fuel out (place source s)) := by
  induction fuel generalizing s out with
  | zero => omega
  | succ fuel ih =>
    have parts := List.takeWhile_append_dropWhile (p := isPlain) (l := s)
    have cut := slice_eq (parts ▸ inText)
    rw [parts] at cut
    rw [readText, takeString_run, passAll_eq uniform_isPlain inText, cut, ok_bind]
    have stop := List.head?_dropWhile_not isPlain s
    generalize s.takeWhile isPlain = run at parts
    generalize s.dropWhile isPlain = rest at parts stop
    have shorter : rest <:+ s := ⟨run, parts⟩
    have inText := shorter.trans inText
    apply Mirrors.mono shorter
    rw [String.toList_ofList]
    cases rest with
    | nil =>
      rw [peek_nil]
      exact .fail _ (List.suffix_refl _) inText
    | cons c tail =>
      have notPlain : isPlain c = false := by simpa using stop
      have behind := List.suffix_cons c tail
      by_cases quote : c = '"'
      · subst quote
        rw [(peek_eq_iff inText (by decide)).2 ⟨tail, rfl⟩, takeString, place_succ inText (by decide)]
        refine ⟨behind, ?_⟩
        dsimp only
        rw [List.append_nil]
        rfl
      · by_cases backslash : c = '\\'
        · subst backslash
          rw [(peek_eq_iff inText (by decide)).2 ⟨tail, rfl⟩, takeString_backslash, map_bind,
            place_succ inText (by decide)]
          refine .mono behind (.bind (readEscape_mirrors (behind.trans inText)) ?_)
          intro escaped suffix
          obtain ⟨e, after⟩ := escaped
          have fewer := suffix.length_le
          have most := shorter.length_le
          rw [List.length_cons] at most
          have later := ih ((suffix.trans behind).trans inText) (by omega) (out ++ run ++ [e])
          refine .map (.map (later.congr ?_))
          intro read
          obtain ⟨text, rest⟩ := read
          simp
        · have control : c.toNat < 0x20 := by
            simpa [isPlain, quote, backslash] using notPlain
          rw [(peek_eq_iff inText (by omega)).2 ⟨tail, rfl⟩, takeString_control tail control]
          split
          · rename_i same
            exact absurd (Option.some.inj same) quote
          · rename_i same
            exact absurd (Option.some.inj same) backslash
          · exact .fail _ (List.suffix_refl _) inText
          · rename_i none
            cases none

theorem readString_mirrors (inText : '"' :: s <:+ source.toList) {fuel : Nat}
    (enough : s.length < fuel) :
    Mirrors source s Prod.snd (fun (text, rest) => (text, place source rest)) (takeString s)
      (readString source fuel (place source ('"' :: s))) := by
  rw [readString, expect_cons inText (by decide), ok_bind]
  exact readText_mirrors (suffix_of_cons inText) fuel enough []

theorem isNameRest_ascii {c : Char} (name : isNameRest c = true) : c.toNat < 128 := by
  rcases (isNameRest_iff c).1 name with letter | rfl | rfl
  · have high : c.toNat ≤ '~'.toNat := (isAlphanum_printable letter).2
    exact Nat.lt_of_le_of_lt high (by decide)
  · decide
  · decide

theorem isNameRest_of_start {c : Char} (start : isNameStart c = true) : isNameRest c = true := by
  rw [isNameRest_iff]
  rw [isNameStart_iff] at start
  exact start.imp_left fun letter => by simp [Char.isAlphanum, letter]

theorem takeKey_bare {c : Char} (s : List Char) (start : isNameStart c = true) :
    takeKey (c :: s) = .ok ((c :: s).takeWhile isNameRest, true, (c :: s).dropWhile isNameRest) := by
  have quote : c ≠ '"' := by
    rintro rfl
    revert start
    decide
  have name := isNameRest_of_start start
  rw [takeKey]
  · rw [if_pos start, List.takeWhile_cons_of_pos name, List.dropWhile_cons_of_pos name]
  · simp [quote]

theorem takeKey_missing {c : Char} (s : List Char) (quote : c ≠ '"')
    (start : isNameStart c = false) : takeKey (c :: s) = .error ⟨.missingKey, c :: s⟩ := by
  rw [takeKey]
  · exact if_neg (ne_true_of_eq_false start)
  · simp [quote]

theorem readKey_bare {c : Char} {pos : Nat} (seen : peek source pos = some c)
    (start : isNameStart c = true) (fuel : Nat) : readKey source fuel pos =
      slice source pos (passAll source isNameRest pos) >>= fun key =>
        .ok ((key.toList, true), passAll source isNameRest pos) := by
  rw [readKey, seen]
  split
  · rename_i same
    cases same
    exact absurd start (by decide)
  · rename_i same
    cases same
    exact if_pos start
  · rename_i none
    cases none

theorem readKey_missing {pos : Nat} (quote : peek source pos ≠ some '"')
    (start : (peek source pos).any isNameStart = false) (fuel : Nat) :
    readKey source fuel pos = fail source .missingKey pos := by
  rw [readKey]
  split
  · rename_i same
    exact absurd same quote
  · rename_i same
    rw [same, Option.any_some] at start
    exact if_neg (ne_true_of_eq_false start)
  · rfl

theorem readKey_mirrors (inText : s <:+ source.toList) {fuel : Nat} (enough : s.length ≤ fuel) :
    Mirrors source s (fun (_, _, rest) => rest)
      (fun (key, bare, rest) => ((key, bare), place source rest)) (takeKey s)
      (readKey source fuel (place source s)) := by
  cases s with
  | nil =>
    rw [readKey, peek_nil]
    exact .fail _ (List.suffix_refl _) inText
  | cons c tail =>
    rw [List.length_cons] at enough
    by_cases quote : c = '"'
    · subst quote
      rw [readKey, (peek_eq_iff inText (by decide)).2 ⟨tail, rfl⟩, takeKey, map_eq_bind]
      refine .mono (List.suffix_cons _ _) (.bind (readString_mirrors inText (by omega)) ?_)
      intro read _
      exact ⟨List.suffix_refl _, rfl⟩
    · cases start : isNameStart c with
      | true =>
        have name := isNameRest_of_start start
        have parts := List.takeWhile_append_dropWhile (p := isNameRest) (l := c :: tail)
        have cut := slice_eq (parts ▸ inText)
        rw [parts] at cut
        have seen := (peek_eq_iff inText (isNameRest_ascii name)).2 ⟨tail, rfl⟩
        rw [takeKey_bare tail start, readKey_bare seen start,
          passAll_eq (uniform_of_ascii fun _ => isNameRest_ascii) inText, cut, ok_bind,
          String.toList_ofList]
        exact ⟨List.dropWhile_suffix _, rfl⟩
      | false =>
        have ascii : ∀ d, isNameStart d = true → d.toNat < 128 := by
          intro d starts
          exact isNameRest_ascii (isNameRest_of_start starts)
        have noName := (peek_any ascii inText).trans start
        have noQuote : ∀ rest, c :: tail ≠ '"' :: rest := by
          intro rest same
          exact quote (List.cons.inj same).1
        rw [takeKey_missing tail quote start,
          readKey_missing (peek_ne inText (by decide) noQuote) noName]
        exact .fail _ (List.suffix_refl _) inText

end DocSearch.Literal.Bytes
