import DocSearch.Proofs.Decimal.ReadBack
import DocSearch.Proofs.Literal.Escaping

/- The text of a double is a number of the grammar, never a whole one, and denotes the double. -/
namespace DocSearch.Literal
open Magnitude
open Text (takeWhile_all)

theorem decimalValue_append (left right : List Char) :
    decimalValue (left ++ right) = decimalValue left * 10 ^ right.length + decimalValue right := by
  rw [decimalValue, Nat.ofDigitChars_append, Nat.ofDigitChars_eq_ofDigitChars_zero, Nat.mul_comm]
  rfl

theorem decimalValue_zero : decimalValue ['0'] = 0 := by decide

theorem digits_zero : Digits ['0'] := ⟨List.cons_ne_nil _ _, List.forall_mem_singleton.2 rfl⟩

theorem zeros_length (n : ℕ) : (zeros n).length = n := List.length_replicate

theorem decimalValue_zeros (n : ℕ) : decimalValue (zeros n) = 0 := by
  rw [decimalValue, zeros, Nat.ofDigitChars_replicate_zero, Nat.mul_zero]

theorem digits_append {left right : List Char} (valid : Digits left)
    (more : ∀ c ∈ right, c.isDigit = true) :
    Digits (left ++ right) := by
  refine ⟨List.append_ne_nil_of_left_ne_nil valid.1 right, fun c member => ?_⟩
  rcases List.mem_append.1 member with inLeft | inRight
  · exact valid.2 c inLeft
  · exact more c inRight

theorem zeros_isDigit (n : ℕ) : ∀ c ∈ zeros n, c.isDigit = true := by
  intro c member
  rw [List.eq_of_mem_replicate member]
  rfl

def SpellsReal (negative : Bool) (t : List Char) (value : ℚ) : Prop :=
  ∃ token, NumberText t token ∧ ¬ token.IsWhole ∧ token.negative = negative ∧
    (token.significand * 10 ^ token.scale : ℚ) = value

theorem spellsReal_point {whole fraction : List Char} {value : ℚ} (negative : Bool)
    (validWhole : Digits whole) (validFraction : Digits fraction)
    (same : (decimalValue (whole ++ fraction) * 10 ^ (-(fraction.length : ℤ)) : ℚ) = value) :
    SpellsReal negative (signText negative ++ (whole ++ '.' :: fraction)) value := by
  have spelled : NumberText (signText negative ++ (whole ++ ('.' :: fraction ++ [])))
      ⟨negative, whole, some fraction, none⟩ :=
    .parts validWhole (.present validFraction) .absent
  rw [List.append_nil] at spelled
  refine ⟨_, spelled, by simp [NumberToken.IsWhole], rfl, ?_⟩
  rw [← same]
  simp [NumberToken.significand, NumberToken.scale]

theorem fraction_spells {digits : List Char} (all : ∀ c ∈ digits, c.isDigit = true) :
    ∃ fraction, FractionText (if digits.isEmpty then [] else '.' :: digits) fraction ∧
      fraction.getD [] = digits := by
  cases digits with
  | nil => exact ⟨none, .absent, rfl⟩
  | cons d digits => exact ⟨some (d :: digits), .present ⟨List.cons_ne_nil d digits, all⟩, rfl⟩

theorem exponent_spells (lead : ℤ) :
    ∃ negative digits, ExponentText ((if lead < 0 then ['e', '-'] else ['e', '+']) ++
        Nat.toDigits 10 lead.natAbs) (some (negative, digits)) ∧
      (if negative then -(decimalValue digits : ℤ) else decimalValue digits) = lead := by
  have valid := toDigits_digits lead.natAbs
  have value := decimalValue_toDigits lead.natAbs
  split
  · refine ⟨true, Nat.toDigits 10 lead.natAbs, .negative (Or.inl rfl) valid, ?_⟩
    rw [if_pos rfl, value]
    omega
  · refine ⟨false, Nat.toDigits 10 lead.natAbs, .positive (Or.inl rfl) valid, ?_⟩
    rw [if_neg (by decide), value]
    omega

theorem layout_below_one {digits : List Char} (valid : Digits digits) (negative : Bool) (e : ℕ) :
    SpellsReal negative (signText negative ++ (['0'] ++ '.' :: (zeros e ++ digits)))
      (decimalValue digits * 10 ^ (Int.negSucc e - digits.length + 1)) := by
  have validFraction : Digits (zeros e ++ digits) := by
    refine ⟨List.append_ne_nil_of_right_ne_nil _ valid.1, fun c member => ?_⟩
    exact (List.mem_append.1 member).elim (zeros_isDigit e c) (valid.2 c)
  have scale : -((zeros e ++ digits).length : ℤ) = Int.negSucc e - digits.length + 1 := by
    rw [List.length_append, zeros_length, Int.negSucc_eq]
    omega
  refine spellsReal_point negative digits_zero validFraction ?_
  rw [decimalValue_append, decimalValue_append, decimalValue_zeros, decimalValue_zero, scale]
  norm_num

theorem layout_whole {digits : List Char} (valid : Digits digits) (negative : Bool) {e : ℕ}
    (short : digits.length ≤ e + 1) :
    SpellsReal negative
      (signText negative ++ (digits ++ zeros (e + 1 - digits.length) ++ '.' :: ['0']))
      (decimalValue digits * 10 ^ ((e : ℤ) - digits.length + 1)) := by
  have exponent : (e : ℤ) - digits.length + 1 = ((e + 1 - digits.length : ℕ) : ℤ) := by omega
  refine spellsReal_point negative (digits_append valid (zeros_isDigit _)) digits_zero ?_
  rw [decimalValue_append, decimalValue_append, decimalValue_zeros, decimalValue_zero, zeros_length,
    exponent, zpow_natCast]
  norm_num
  ring

theorem layout_parted {digits : List Char} (valid : Digits digits) (negative : Bool) {e : ℕ}
    (long : e + 1 < digits.length) :
    SpellsReal negative (signText negative ++ (digits.take (e + 1) ++ '.' :: digits.drop (e + 1)))
      (decimalValue digits * 10 ^ ((e : ℤ) - digits.length + 1)) := by
  have validWhole : Digits (digits.take (e + 1)) := by
    refine ⟨List.ne_nil_of_length_pos ?_, fun c member => valid.2 c (List.mem_of_mem_take member)⟩
    rw [List.length_take]
    omega
  have validFraction : Digits (digits.drop (e + 1)) := by
    refine ⟨List.ne_nil_of_length_pos ?_, fun c member => valid.2 c (List.mem_of_mem_drop member)⟩
    rw [List.length_drop]
    omega
  have scale : -((digits.drop (e + 1)).length : ℤ) = (e : ℤ) - digits.length + 1 := by
    rw [List.length_drop]
    omega
  refine spellsReal_point negative validWhole validFraction ?_
  rw [List.take_append_drop, scale]

theorem layout_fixed {digits : List Char} (valid : Digits digits) (negative : Bool) (e : ℕ) :
    SpellsReal negative (signText negative ++ (digits.take (e + 1) ++
        zeros (e + 1 - (digits.take (e + 1)).length) ++ ['.'] ++
        (if (digits.drop (e + 1)).isEmpty then ['0'] else digits.drop (e + 1))))
      (decimalValue digits * 10 ^ ((e : ℤ) - digits.length + 1)) := by
  by_cases short : digits.length ≤ e + 1
  · have spelled := layout_whole valid negative short
    rw [List.take_of_length_le short, List.drop_of_length_le short]
    simpa using spelled
  · have long : e + 1 < digits.length := Nat.lt_of_not_le short
    have spelled := layout_parted valid negative long
    rw [List.length_take_of_le long.le, Nat.sub_self, if_neg (by simpa using long)]
    simpa [zeros] using spelled

theorem layout_scientific {digits : List Char} (valid : Digits digits) (negative : Bool)
    (lead : ℤ) :
    SpellsReal negative (signText negative ++ (digits.take 1 ++
        (if (digits.drop 1).isEmpty then [] else '.' :: digits.drop 1) ++
        (if lead < 0 then ['e', '-'] else ['e', '+']) ++ Nat.toDigits 10 lead.natAbs))
      (decimalValue digits * 10 ^ (lead - digits.length + 1)) := by
  obtain ⟨d, more, rfl, digit⟩ := valid.head
  have validWhole : Digits [d] := ⟨List.cons_ne_nil _ _, by simpa using digit⟩
  obtain ⟨fraction, fractional, moreDigits⟩ :=
    fraction_spells (fun c member => valid.2 c (List.mem_cons_of_mem d member))
  obtain ⟨down, digits, scientific, shift⟩ := exponent_spells lead
  have spelled : NumberText _ ⟨negative, [d], fraction, some (down, digits)⟩ :=
    .parts validWhole fractional scientific
  refine ⟨_, by simpa using spelled, ?_, rfl, ?_⟩
  · simp [NumberToken.IsWhole]
  · simp only [NumberToken.significand, NumberToken.scale, moreDigits, shift]
    congr 2
    simp only [List.length_cons]
    omega

theorem layout_spells {digits : List Char} (valid : Digits digits) (negative : Bool) (lead : ℤ) :
    SpellsReal negative (signText negative ++ layout digits lead)
      (decimalValue digits * 10 ^ (lead - digits.length + 1)) := by
  unfold layout
  split
  · cases lead with
    | ofNat e => exact layout_fixed valid negative e
    | negSucc e => exact layout_below_one valid negative e
  · exact layout_scientific valid negative lead

theorem dropTrailing_append (ds : List Char) :
    ∃ z, ds = (ds.reverse.dropWhile (· == '0')).reverse ++ zeros z := by
  have parted : ds.reverse = ds.reverse.takeWhile (· == '0') ++ ds.reverse.dropWhile (· == '0') :=
    List.takeWhile_append_dropWhile.symm
  have dropped : ds.reverse.takeWhile (· == '0') =
      zeros (ds.reverse.takeWhile (· == '0')).length := by
    refine List.eq_replicate_iff.2 ⟨rfl, fun c member => ?_⟩
    simpa using takeWhile_all _ c member
  refine ⟨(ds.reverse.takeWhile (· == '0')).length, ?_⟩
  rw [dropped] at parted
  have whole := congrArg List.reverse parted
  rwa [List.reverse_append, List.reverse_reverse, zeros, List.reverse_replicate] at whole

theorem significantDigits_append (n : ℕ) :
    ∃ z, Nat.toDigits 10 n = significantDigits n ++ zeros z ∧ Digits (significantDigits n) := by
  have valid := toDigits_digits n
  obtain ⟨d, ds, shown, _⟩ := valid.head
  obtain ⟨z, parted⟩ := dropTrailing_append ds
  have whole : Nat.toDigits 10 n = significantDigits n ++ zeros z := by
    rw [significantDigits, shown, List.cons_append, ← parted]
  refine ⟨z, whole, ?_, fun c member => valid.2 c ?_⟩
  · rw [significantDigits, shown]
    exact List.cons_ne_nil _ _
  · rw [whole]
    exact List.mem_append_left _ member

theorem text_spells (x : Double) :
    SpellsReal x.negative x.text ((shortest x.magnitude).1 * 10 ^ (shortest x.magnitude).2) := by
  unfold Double.text
  generalize shortest x.magnitude = found
  obtain ⟨n, e⟩ := found
  dsimp only
  obtain ⟨z, digits, valid⟩ := significantDigits_append n
  have lengths : (Nat.toDigits 10 n).length = (significantDigits n).length + z := by
    rw [digits, List.length_append, zeros_length]
  have values : n = decimalValue (significantDigits n) * 10 ^ z := by
    have shown := decimalValue_toDigits n
    rw [digits, decimalValue_append, decimalValue_zeros, zeros_length] at shown
    exact shown.symm
  have spelled := layout_spells valid x.negative (e + Int.ofNat (Nat.toDigits 10 n).length - 1)
  have exponent : e + Int.ofNat (Nat.toDigits 10 n).length - 1 - (significantDigits n).length + 1 =
      z + e := by
    rw [lengths, Int.ofNat_eq_natCast]
    omega
  have same : (n * 10 ^ e : ℚ) = decimalValue (significantDigits n) * 10 ^ (z + e) := by
    rw [zpow_add₀ (by norm_num), zpow_natCast, ← mul_assoc]
    congr 1
    exact_mod_cast values
  rw [exponent, ← same] at spelled
  exact spelled

theorem ofDecimal?_zero {x : Double} (zero : x.magnitude = 0) (e : ℤ) :
    Double.ofDecimal? x.negative 0 e = some x := by
  obtain ⟨negative, magnitude, finite⟩ := x
  cases zero
  rfl

theorem NumberText.leading {token : NumberToken} {body : List Char}
    (text : NumberText (signText token.negative ++ body) token)
    (single : ∀ d rest, body = '0' :: d :: rest → d.isDigit = false)
    (leads : token.whole.head? = some '0') : token.whole = ['0'] := by
  have parted : Digits token.whole ∧ ∃ rest, body = token.whole ++ rest := by
    generalize whole : signText token.negative ++ body = s at text
    cases text with
    | @parts negative whole f e fraction exponent valid =>
      exact ⟨valid, f ++ e, List.append_cancel_left whole⟩
  obtain ⟨⟨_, all⟩, rest, same⟩ := parted
  cases shown : token.whole with
  | nil => simp [shown] at leads
  | cons c ds =>
    rw [shown] at leads same all
    cases leads
    cases ds with
    | nil => rfl
    | cons d ds =>
      have stop := single d (ds ++ rest) same
      rw [all d (by simp)] at stop
      cases stop

theorem significantDigits_head {n : ℕ} (leads : (significantDigits n).head? = some '0') :
    n = 0 := by
  obtain ⟨d, ds, shown, _⟩ := (toDigits_digits n).head
  apply toDigits_head
  simpa [significantDigits, shown] using leads

theorem layout_leading {digits : List Char} {lead : ℤ} (valid : Digits digits)
    (leading : digits.head? = some '0' → digits = ['0'] ∧ lead = 0) {d : Char} {rest : List Char}
    (shown : layout digits lead = '0' :: d :: rest) : d.isDigit = false := by
  obtain ⟨c, ds, rfl, _⟩ := valid.head
  by_cases zero : c = '0'
  · subst c
    obtain ⟨alone, rfl⟩ := leading rfl
    have spelled : layout ['0'] 0 = ['0', '.', '0'] := by decide
    rw [alone, spelled] at shown
    cases shown
    rfl
  · unfold layout at shown
    split at shown
    · cases lead with
      | ofNat e => simp [zero] at shown
      | negSucc e =>
        cases shown
        rfl
    · simp [zero] at shown

theorem shortest_leading (x : Double) (zero : (shortest x.magnitude).1 = 0) :
    (shortest x.magnitude).2 = 0 := by
  by_cases none : x.magnitude = 0
  · rw [none, shortest_zero]
  · have positive := (shortest_rounds none).pos none
    simp [zero] at positive

theorem text_leading (x : Double) :
    ∃ body, x.text = signText x.negative ++ body ∧
      ∀ d rest, body = '0' :: d :: rest → d.isDigit = false := by
  have exponent := shortest_leading x
  unfold Double.text
  generalize shortest x.magnitude = found at exponent
  obtain ⟨n, e⟩ := found
  obtain ⟨_, _, valid⟩ := significantDigits_append n
  refine ⟨_, rfl, fun d rest shown => layout_leading valid (fun leads => ?_) shown⟩
  have none := significantDigits_head leads
  subst none
  have same : e = 0 := exponent rfl
  subst same
  exact ⟨rfl, rfl⟩

theorem real_spells (x : Double) : ∃ token, JsonNumber x.text token ∧ token.Denotes (.real x) := by
  obtain ⟨token, spelled, part, sign, value⟩ := text_spells x
  refine ⟨token, ⟨spelled, ?_⟩, .rounded x (fun whole => absurd whole part) ?_⟩
  · obtain ⟨body, shown, leading⟩ := text_leading x
    rw [shown, ← sign] at spelled
    exact spelled.leading leading
  · rw [sign]
    by_cases zero : x.magnitude = 0
    · rw [zero, shortest_zero] at value
      have digits : token.significand = 0 := by simpa [(ten_zpow_pos _).ne'] using value
      rw [digits]
      exact ofDecimal?_zero zero _
    · have rounds := shortest_rounds zero
      rw [← value] at rounds
      exact Double.ofDecimal?_of_rounds zero rounds

theorem renderNumber_spells (n : Number) :
    ∃ token, JsonNumber (renderNumber n) token ∧ token.Denotes n := by
  cases n with
  | integer n => exact integer_spells n
  | real x => exact real_spells x

end DocSearch.Literal
