import Mathlib.Tactic.IntervalCases
import DocSearch.Proofs.Literal.Numeral

/- Strings and keys: the reader takes exactly the pieces that the grammar calls strings and keys,
with the characters they denote. -/
namespace DocSearch.Literal
open Text (takeWhile_run dropWhile_run takeWhile_all)

instance (c : Char) (n : Nat) : Decidable (HexDigit c n) :=
  inferInstanceAs (Decidable (n < 16 ∧ (c = n.digitChar ∨ c = n.digitChar.toUpper)))

theorem hexDigit_between {c : Char} {first last : Nat} (value : Nat)
    (table : ∀ k < last + 1, first ≤ k → HexDigit (Char.ofNat k) (k - first + value))
    (low : first ≤ c.toNat) (high : c.toNat ≤ last) : HexDigit c (c.toNat - first + value) := by
  have digit := table c.toNat (Nat.lt_succ_of_le high) low
  rwa [Char.ofNat_toNat] at digit

theorem hexDigit_of_value {c : Char} {n : Nat} (value : hexDigitValue? c = some n) :
    HexDigit c n := by
  simp only [hexDigitValue?, Bool.and_eq_true, decide_eq_true_eq] at value
  split at value
  · rename_i decimal
    cases value
    exact hexDigit_between 0 (by decide) decimal.1 decimal.2
  · split at value
    · rename_i lower
      cases value
      exact hexDigit_between 10 (by decide) lower.1 lower.2
    · split at value
      · rename_i upper
        cases value
        exact hexDigit_between 10 (by decide) upper.1 upper.2
      · cases value

theorem value_of_hexDigit {c : Char} {n : Nat} (digit : HexDigit c n) :
    hexDigitValue? c = some n := by
  obtain ⟨bound, rfl | rfl⟩ := digit
  · interval_cases n <;> rfl
  · interval_cases n <;> rfl

theorem hexUnit_of_value {a b c d : Char} {n : Nat} (value : hexValue? a b c d = some n) :
    HexUnit [a, b, c, d] n := by
  simp only [hexValue?, Option.bind_eq_bind, Option.bind_eq_some_iff] at value
  obtain ⟨w, first, x, second, y, third, z, fourth, same⟩ := value
  have sum : n = w * 0x1000 + x * 0x100 + y * 0x10 + z := by
    cases same
    omega
  rw [sum]
  exact .digits (hexDigit_of_value first) (hexDigit_of_value second) (hexDigit_of_value third)
    (hexDigit_of_value fourth)

theorem value_of_hexUnit {digits : List Char} {n : Nat} (unit : HexUnit digits n) :
    ∃ a b c d, digits = [a, b, c, d] ∧ hexValue? a b c d = some n := by
  cases unit with
  | digits first second third fourth =>
    rename_i a b c d w x y z
    refine ⟨a, b, c, d, rfl, ?_⟩
    simp only [hexValue?, value_of_hexDigit first, value_of_hexDigit second,
      value_of_hexDigit third, value_of_hexDigit fourth, Option.bind_eq_bind, Option.bind_some,
      Option.pure_def, Option.some.injEq]
    omega

theorem highSurrogate_iff (n : Nat) : isHighSurrogate n = true ↔ HighSurrogate n := by
  simp [isHighSurrogate, HighSurrogate]

theorem lowSurrogate_iff (n : Nat) : isLowSurrogate n = true ↔ LowSurrogate n := by
  simp [isLowSurrogate, LowSurrogate]

theorem escapedChar?_eq_some {letter c : Char} (known : escapedChar? letter = some c) :
    (letter, c) ∈ escapes := by
  simp only [escapedChar?] at known
  split at known <;> cases known <;> decide

theorem consChar_eq_ok {c : Char} {read : Except Fault (List Char × List Char)}
    {text rest : List Char} : consChar c read = .ok (text, rest) ↔
      ∃ more, read = .ok (more, rest) ∧ text = c :: more := by
  rw [consChar, map_eq_ok]
  constructor
  · rintro ⟨⟨more, after⟩, taken, same⟩
    cases same
    exact ⟨more, taken, rfl⟩
  · rintro ⟨more, taken, rfl⟩
    exact ⟨(more, rest), taken, rfl⟩

theorem takeString_sound {s text rest : List Char} (taken : takeString s = .ok (text, rest)) :
    ∃ t, StringText t text ∧ s = t ++ '"' :: rest := by
  fun_induction takeString s generalizing text with
  | case2 =>
    cases taken
    exact ⟨[], .done, rfl⟩
  | case6 a b c d high hex isHigh e f g h more low moreHex isLow ih =>
    obtain ⟨later, read, rfl⟩ := consChar_eq_ok.1 taken
    obtain ⟨t, body, rfl⟩ := ih read
    exact ⟨_, .pair (hexUnit_of_value hex) ((highSurrogate_iff high).1 isHigh)
      (hexUnit_of_value moreHex) ((lowSurrogate_iff low).1 isLow) body, rfl⟩
  | case11 a b c d more n hex notHigh notLow ih =>
    obtain ⟨later, read, rfl⟩ := consChar_eq_ok.1 taken
    obtain ⟨t, body, rfl⟩ := ih read
    exact ⟨_, .unit (hexUnit_of_value hex) (mt (highSurrogate_iff n).2 notHigh)
      (mt (lowSurrogate_iff n).2 notLow) body, rfl⟩
  | case13 letter more _ _ c known ih =>
    obtain ⟨later, read, rfl⟩ := consChar_eq_ok.1 taken
    obtain ⟨t, body, rfl⟩ := ih read
    exact ⟨_, .escape (escapedChar?_eq_some known) body, rfl⟩
  | case16 c more quote loneBackslash _ _ backslash printable ih =>
    obtain ⟨later, read, rfl⟩ := consChar_eq_ok.1 taken
    obtain ⟨t, body, rfl⟩ := ih read
    refine ⟨c :: t, .raw (Nat.le_of_not_lt printable) quote ?_ body, rfl⟩
    rintro rfl
    -- The text behind `c` is not empty: it holds the closing quote.
    cases t with
    | nil => exact backslash _ _ rfl rfl
    | cons d t => exact backslash _ _ rfl rfl
  | case1 | case3 | case4 | case5 | case7 | case8 | case9 | case10 | case12 | case14 | case15 =>
    cases taken

theorem takeString_raw {c : Char} (s : List Char) (printable : 0x20 ≤ c.toNat) (quote : c ≠ '"')
    (backslash : c ≠ '\\') : takeString (c :: s) = consChar c (takeString s) := by
  rw [takeString]
  · rw [if_neg (Nat.not_lt.2 printable)]
  all_goals simp [quote, backslash]

theorem takeString_escape {letter c : Char} (s : List Char) (known : (letter, c) ∈ escapes) :
    takeString ('\\' :: letter :: s) = consChar c (takeString s) := by
  have cases : ∀ pair ∈ escapes,
      takeString ('\\' :: pair.1 :: s) = consChar pair.2 (takeString s) := by
    simp [escapes, takeString, escapedChar?]
  exact cases _ known

theorem takeString_unit {digits : List Char} {n : Nat} (s : List Char) (hex : HexUnit digits n)
    (notHigh : ¬ HighSurrogate n) (notLow : ¬ LowSurrogate n) :
    takeString ('\\' :: 'u' :: (digits ++ s)) = consChar (Char.ofNat n) (takeString s) := by
  obtain ⟨a, b, c, d, rfl, value⟩ := value_of_hexUnit hex
  have high : ¬ isHighSurrogate n = true := mt (highSurrogate_iff n).1 notHigh
  have low : ¬ isLowSurrogate n = true := mt (lowSurrogate_iff n).1 notLow
  simp only [List.cons_append, List.nil_append, takeString, value, if_neg high, if_neg low]

theorem takeString_pair {digits moreDigits : List Char} {high low : Nat} (s : List Char)
    (hex : HexUnit digits high) (isHigh : HighSurrogate high) (moreHex : HexUnit moreDigits low)
    (isLow : LowSurrogate low) :
    takeString ('\\' :: 'u' :: (digits ++ '\\' :: 'u' :: (moreDigits ++ s))) =
      consChar (ofSurrogates high low) (takeString s) := by
  obtain ⟨a, b, c, d, rfl, value⟩ := value_of_hexUnit hex
  obtain ⟨e, f, g, h, rfl, moreValue⟩ := value_of_hexUnit moreHex
  have highTest := (highSurrogate_iff high).2 isHigh
  have lowTest := (lowSurrogate_iff low).2 isLow
  simp only [List.cons_append, List.nil_append, takeString, value, if_pos highTest, moreValue,
    if_pos lowTest]

theorem takeString_complete {t text : List Char} (body : StringText t text) (rest : List Char) :
    takeString (t ++ '"' :: rest) = .ok (text, rest) := by
  induction body with
  | done => rfl
  | raw printable quote backslash _ ih =>
    rw [List.cons_append, takeString_raw _ printable quote backslash, ih]
    rfl
  | escape known _ ih =>
    rw [List.cons_append, List.cons_append, takeString_escape _ known, ih]
    rfl
  | unit hex notHigh notLow _ ih =>
    rw [List.cons_append, List.cons_append, List.append_assoc,
      takeString_unit _ hex notHigh notLow, ih]
    rfl
  | pair hex isHigh moreHex isLow _ ih =>
    rw [List.cons_append, List.cons_append, List.append_assoc, List.cons_append, List.cons_append,
      List.append_assoc, takeString_pair _ hex isHigh moreHex isLow, ih]
    rfl

theorem isNameStart_iff (c : Char) : isNameStart c = true ↔ IsNameStart c := by
  simp [isNameStart, IsNameStart, or_assoc]

theorem isNameRest_iff (c : Char) : isNameRest c = true ↔ IsNameRest c := by
  simp [isNameRest, IsNameRest, or_assoc]

theorem takeKey_sound {s key rest : List Char} {bare : Bool}
    (taken : takeKey s = .ok (key, bare, rest)) :
    ∃ t, KeyText t (String.ofList key) bare ∧ s = t ++ rest := by
  simp only [takeKey] at taken
  split at taken
  · obtain ⟨⟨text, after⟩, read, same⟩ := map_eq_ok.1 taken
    cases same
    obtain ⟨t, body, rfl⟩ := takeString_sound read
    exact ⟨_, .quoted body, by simp⟩
  · rename_i c more _
    split at taken
    · rename_i first
      cases taken
      refine ⟨_, .bare ((isNameStart_iff c).1 first) fun d member => ?_, ?_⟩
      · exact (isNameRest_iff d).1 (takeWhile_all _ d member)
      · simp
    · cases taken
  · cases taken

theorem takeKey_complete {t rest : List Char} {key : String} {bare : Bool}
    (named : KeyText t key bare) (stop : ∀ c ∈ rest.head?, ¬ IsNameRest c) :
    takeKey (t ++ rest) = .ok (key.toList, bare, rest) := by
  cases named with
  | quoted body =>
    rw [List.cons_append, List.append_assoc, takeKey]
    simp [takeString_complete body rest, Except.map]
  | bare first later =>
    rename_i c s
    have quote : c ≠ '"' := by
      rintro rfl
      revert first
      simp [IsNameStart]
    have all : ∀ d ∈ s, isNameRest d = true := fun d member => (isNameRest_iff d).2 (later d member)
    have ends : ∀ d ∈ rest.head?, isNameRest d = false := fun d member => by
      simpa [← isNameRest_iff] using stop d member
    simp [takeKey, (isNameStart_iff c).2 first, takeWhile_run all ends, dropWhile_run all ends]

end DocSearch.Literal
