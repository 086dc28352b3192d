import DocSearch.Literal.Printer
import DocSearch.Proofs.Literal.Json
import DocSearch.Proofs.Literal.Numeral

/- The strings, keys and whole numbers that the writer prints are spelled as the grammar wants them,
strings and numbers even as strict JSON does. -/
namespace DocSearch.Literal

theorem hexUnit_spells {n : Nat} (bound : n < 0x10000) : HexUnit (hexUnit n) n := by
  have digit (k : Nat) : HexDigit (k % 16).digitChar (k % 16) :=
    ⟨Nat.mod_lt k (by decide), Or.inl rfl⟩
  have spelled :=
    HexUnit.digits (digit (n / 0x1000)) (digit (n / 0x100)) (digit (n / 0x10)) (digit n)
  have sum : n / 0x1000 % 16 * 0x1000 + n / 0x100 % 16 * 0x100 + n / 0x10 % 16 * 0x10 + n % 16 =
      n := by
    omega
  rwa [sum] at spelled

theorem toNat_valid (c : Char) : c.toNat < 0xD800 ∨ 0xDFFF < c.toNat ∧ c.toNat < 0x110000 := c.valid

theorem JsonChars.units (c : Char) {s text : List Char} (later : JsonChars s text) :
    JsonChars ((utf16Units c).flatMap (fun unit => '\\' :: 'u' :: hexUnit unit) ++ s)
      (c :: text) := by
  have valid := toNat_valid c
  unfold utf16Units
  split
  · rename_i small
    have spelled := JsonChars.unit (hexUnit_spells small) (by unfold HighSurrogate; omega)
      (by unfold LowSurrogate; omega) later
    rw [Char.ofNat_toNat] at spelled
    simpa using spelled
  · rename_i large
    have high : HighSurrogate (0xD800 + (c.toNat - 0x10000) / 0x400) := by
      unfold HighSurrogate
      omega
    have low : LowSurrogate (0xDC00 + (c.toNat - 0x10000) % 0x400) := by unfold LowSurrogate; omega
    have spelled :=
      JsonChars.pair (hexUnit_spells (by omega)) high (hexUnit_spells (by omega)) low later
    have same : 0x10000 + (0xD800 + (c.toNat - 0x10000) / 0x400 - 0xD800) * 0x400 +
        (0xDC00 + (c.toNat - 0x10000) % 0x400 - 0xDC00) = c.toNat := by
      omega
    rw [same, Char.ofNat_toNat] at spelled
    simpa using spelled

theorem JsonChars.escapeChar (c : Char) {s text : List Char} (later : JsonChars s text) :
    JsonChars (escapeChar c ++ s) (c :: text) := by
  unfold Literal.escapeChar
  -- One split for each of the seven characters that have an escape of one letter.
  iterate 7
    split
    · subst c
      exact .escape (by decide) later
  split
  · rename_i quote backslash _ _ _ _ _ printable
    simp only [Bool.and_eq_true, decide_eq_true_eq] at printable
    exact .raw printable.1 quote backslash later
  · exact .units c later

theorem JsonChars.flatMap_escapeChar (text : List Char) :
    JsonChars (text.flatMap Literal.escapeChar) text := by
  induction text with
  | nil => exact .done
  | cons c text ih => exact ih.escapeChar c

def IsIdentifier (key : String) : Prop :=
  ∃ c rest, key.toList = c :: rest ∧ (c.isAlpha = true ∨ c = '_') ∧
    ∀ d ∈ rest, d.isAlphanum = true ∨ d = '_'

theorem isBareKey_iff {key : String} :
    isBareKey key = true ↔ IsIdentifier key ∧ key ∉ reservedWords := by
  unfold isBareKey IsIdentifier
  split
  · rename_i empty
    simp [empty]
  · rename_i c rest spelled
    simp only [spelled, Bool.and_eq_true, Bool.or_eq_true, beq_iff_eq, List.all_eq_true,
      Bool.not_eq_true', List.contains_eq_mem, decide_eq_false_iff_not]
    constructor
    · intro bare
      obtain ⟨⟨first, later⟩, free⟩ := bare
      exact ⟨⟨c, rest, rfl, first, later⟩, free⟩
    · intro named
      obtain ⟨⟨_, _, same, first, later⟩, free⟩ := named
      cases same
      exact ⟨⟨first, later⟩, free⟩

theorem IsIdentifier.keyText {key : String} (named : IsIdentifier key) :
    KeyText key.toList key true := by
  obtain ⟨c, rest, spelled, first, later⟩ := named
  have bare := KeyText.bare (first.imp_right Or.inl)
    fun d member => (later d member).imp_right Or.inl
  rwa [← spelled, String.ofList_toList] at bare

theorem renderKey_spells (dialect : Dialect) (key : String) :
    KeyText (renderKey dialect key) key (decide (dialect = .legacy) && isBareKey key) := by
  have quoted : KeyText (renderString key) key false := by
    have spelled := KeyText.quoted (JsonChars.flatMap_escapeChar key.toList).stringText
    rwa [String.ofList_toList] at spelled
  cases dialect with
  | json => exact quoted
  | legacy =>
    simp only [renderKey, decide_true, Bool.true_and]
    cases bare : isBareKey key with
    | false => simpa using quoted
    | true => simpa using (isBareKey_iff.1 bare).1.keyText

theorem toDigits_digits (n : Nat) : Digits (Nat.toDigits 10 n) :=
  ⟨Nat.toDigits_ne_nil, fun _ member => Nat.isDigit_of_mem_toDigits (by decide) (by decide) member⟩

theorem decimalValue_toDigits (n : Nat) : decimalValue (Nat.toDigits 10 n) = n :=
  Nat.ofDigitChars_ten_toDigits

theorem toDigits_head {n : Nat} (leads : (Nat.toDigits 10 n).head? = some '0') : n = 0 := by
  induction n using Nat.strongRecOn with
  | ind n ih =>
    rw [Nat.toDigits_eq_if (by decide)] at leads
    split at leads
    · exact Nat.digitChar_eq_zero.1 (Option.some.inj leads)
    · rename_i large
      obtain ⟨d, rest, shown, _⟩ := (toDigits_digits (n / 10)).head
      have zero := ih (n / 10) (by omega) (by simpa [shown] using leads)
      omega

theorem integer_spells (n : Integer) :
    ∃ token, JsonNumber (renderNumber (.integer n)) token ∧ token.Denotes (.integer n) := by
  have whole (negative : Bool) (m : Nat) :
      JsonNumber (signText negative ++ Nat.toDigits 10 m)
        ⟨negative, Nat.toDigits 10 m, none, none⟩ := by
    have spelled : NumberText (signText negative ++ (Nat.toDigits 10 m ++ ([] ++ [])))
        ⟨negative, Nat.toDigits 10 m, none, none⟩ :=
      .parts (toDigits_digits m) .absent .absent
    refine ⟨by simpa using spelled, fun leads => ?_⟩
    rw [toDigits_head leads, Nat.toDigits_zero]
  cases sign : n.val with
  | ofNat m =>
    refine ⟨_, by simpa [renderNumber, sign, signText] using whole false m, .exact n ⟨rfl, rfl⟩ ?_⟩
    simp [NumberToken.wholeValue, decimalValue_toDigits, sign]
  | negSucc m =>
    refine ⟨_, by simpa [renderNumber, sign, signText] using whole true (m + 1),
      .exact n ⟨rfl, rfl⟩ ?_⟩
    simp only [NumberToken.wholeValue, decimalValue_toDigits, sign]
    rfl

end DocSearch.Literal
