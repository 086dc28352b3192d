import Mathlib.Tactic.LinearCombination
import DocSearch.Proofs.Decimal.Rounding

/- The shortest digits of a number, wherever they are found, are read back as the number, and they
are always found. -/
namespace DocSearch.Magnitude

theorem ten_zpow_pos (e : ℤ) : (0 : ℚ) < 10 ^ e := by positivity

theorem inUnits_pos (num : ℕ) {den : ℕ} (pos : 0 < den) (e : ℤ) : 0 < (inUnits num den e).2 := by
  cases e with
  | ofNat e => exact Nat.mul_pos pos (Nat.pow_pos (by decide))
  | negSucc e => exact pos

theorem inUnits_ratio (num den : ℕ) (e : ℤ) :
    ((inUnits num den e).1 / (inUnits num den e).2 : ℚ) = num / den / 10 ^ e := by
  cases e with
  | ofNat e => simp [inUnits, div_div]
  | negSucc e =>
    simp only [inUnits, Nat.pow_eq, zpow_negSucc, Nat.cast_mul, Nat.cast_pow, Nat.cast_ofNat,
      div_inv_eq_mul]
    ring

theorem toDigits_bounds {n : ℕ} (some : n ≠ 0) :
    10 ^ ((Nat.toDigits 10 n).length - 1) ≤ n ∧ n < 10 ^ (Nat.toDigits 10 n).length := by
  have filled : 0 < (Nat.toDigits 10 n).length := Nat.length_toDigits_pos
  constructor
  · by_contra below
    by_cases one : (Nat.toDigits 10 n).length - 1 = 0
    · rw [one] at below
      omega
    · have shorter := (Nat.length_toDigits_le_iff (by decide) (Nat.pos_of_ne_zero one)).2
        (Nat.lt_of_not_le below)
      omega
  · exact (Nat.length_toDigits_le_iff (by decide) filled).1 (Nat.le_refl _)

theorem decimal_bounds {n : ℕ} (some : n ≠ 0) (e : ℤ) :
    (10 : ℚ) ^ (e + Int.ofNat (Nat.toDigits 10 n).length - 1) ≤ n * 10 ^ e ∧
      (n * 10 ^ e : ℚ) < 10 ^ (e + Int.ofNat (Nat.toDigits 10 n).length) := by
  obtain ⟨low, high⟩ := toDigits_bounds some
  have filled : 0 < (Nat.toDigits 10 n).length := Nat.length_toDigits_pos
  generalize (Nat.toDigits 10 n).length = k at low high filled
  have unit := ten_zpow_pos e
  have ten : (10 : ℚ) ≠ 0 := by norm_num
  have lowQ : (10 : ℚ) ^ ((k : ℤ) - 1) ≤ n := by
    rw [← Int.natCast_pred_of_pos filled, zpow_natCast]
    exact_mod_cast low
  have highQ : (n : ℚ) < 10 ^ (k : ℤ) := by
    rw [zpow_natCast]
    exact_mod_cast high
  rw [Int.ofNat_eq_natCast]
  constructor
  · calc (10 : ℚ) ^ (e + k - 1) = 10 ^ ((k : ℤ) - 1) * 10 ^ e := by
          rw [← zpow_add₀ ten]
          congr 1
          omega
      _ ≤ n * 10 ^ e := mul_le_mul_of_nonneg_right lowQ unit.le
  · calc (n * 10 ^ e : ℚ) < 10 ^ (k : ℤ) * 10 ^ e := mul_lt_mul_of_pos_right highQ unit
      _ = 10 ^ (e + k) := by rw [← zpow_add₀ ten, Int.add_comm]

theorem leadingExponent_le {num den : ℕ} (some : num ≠ 0) (pos : 0 < den) :
    (10 : ℚ) ^ leadingExponent num den ≤ num / den := by
  have posQ : (0 : ℚ) < den := by exact_mod_cast pos
  rw [le_div_iff₀ posQ]
  unfold leadingExponent
  split
  · rename_i large
    have whole : num / den ≠ 0 := Nat.ne_of_gt (Nat.div_pos large pos)
    have low : 10 ^ ((Nat.toDigits 10 (num / den)).length - 1) * den ≤ num :=
      (Nat.le_div_iff_mul_le pos).1 (toDigits_bounds whole).1
    rw [Int.ofNat_eq_natCast, zpow_natCast]
    exact_mod_cast low
  · rename_i small
    generalize shown : (Nat.toDigits 10 ((den - 1) / num)).length = k
    have bound : (den - 1) / num < 10 ^ k := by
      rw [← shown]
      exact (Nat.length_toDigits_le_iff (by decide) Nat.length_toDigits_pos).1 (Nat.le_refl _)
    have high : den ≤ num * 10 ^ k := by
      have product := (Nat.div_lt_iff_lt_mul (Nat.pos_of_ne_zero some)).1 bound
      rw [Nat.mul_comm] at product
      omega
    have highQ : (den : ℚ) ≤ num * 10 ^ k := by exact_mod_cast high
    rw [Int.ofNat_eq_natCast, zpow_neg, zpow_natCast, inv_mul_le_iff₀ (by positivity), mul_comm]
    exact highQ

theorem exists_scale {x : ℕ} (some : x ≠ 0) (e : ℤ) : ∃ c : ℚ, 0 < c ∧
    (∀ quarters : ℕ, (quarters * (inUnits (ratio x).1 (ratio x).2 e).1 : ℚ) =
      c * (quarters / 4 * 2 ^ exponent x)) ∧
    ∀ n : ℕ, (4 * significand x * n * (inUnits (ratio x).1 (ratio x).2 e).2 : ℚ) =
      c * (n * 10 ^ e) := by
  have units := inUnits_ratio (ratio x).1 (ratio x).2 e
  have pos := inUnits_pos (ratio x).1 (ratio_pos x) e
  rw [ratio_value, value] at units
  generalize inUnits (ratio x).1 (ratio x).2 e = parts at units pos ⊢
  obtain ⟨u, v⟩ := parts
  dsimp only at units pos ⊢
  have posV : (0 : ℚ) < v := by exact_mod_cast pos
  have posM : (0 : ℚ) < significand x := by exact_mod_cast significand_pos some
  have unit := ten_zpow_pos e
  rw [div_eq_div_iff posV.ne' unit.ne'] at units
  refine ⟨4 * significand x * v / 10 ^ e, by positivity, fun quarters => ?_, fun n => ?_⟩
  · field_simp
    linear_combination quarters * units
  · field_simp

theorem readsBack_iff {x : ℕ} (some : x ≠ 0) (e : ℤ) (n : ℕ) :
    readsBack x e n = true ↔ Rounds x (n * 10 ^ e) := by
  obtain ⟨c, pos, scaledBound, scaledPlace⟩ := exists_scale some e
  generalize units : inUnits (ratio x).1 (ratio x).2 e = parts at scaledBound scaledPlace
  have atLeast (quarters : ℕ) : quarters * parts.1 ≤ 4 * significand x * n * parts.2 ↔
      (quarters / 4 * 2 ^ exponent x : ℚ) ≤ n * 10 ^ e := by
    rw [← @Nat.cast_le ℚ]
    push_cast
    rw [scaledBound, scaledPlace, mul_le_mul_iff_of_pos_left pos]
  have atMost (quarters : ℕ) : 4 * significand x * n * parts.2 ≤ quarters * parts.1 ↔
      (n * 10 ^ e : ℚ) ≤ quarters / 4 * 2 ^ exponent x := by
    rw [← @Nat.cast_le ℚ]
    push_cast
    rw [scaledBound, scaledPlace, mul_le_mul_iff_of_pos_left pos]
  simp only [Rounds, ← not_le, ← atLeast, ← atMost, readsBack, units]
  split
  · rename_i even
    simp [even]
  · rename_i odd
    have isOdd : significand x % 2 = 1 := by omega
    simp only [isOdd, Bool.and_eq_true, decide_eq_true_eq, true_implies]
    omega

theorem value_pos {x : ℕ} (some : x ≠ 0) : 0 < value x :=
  mul_pos (by exact_mod_cast significand_pos some) (two_zpow_pos _)

theorem lead_le_value {x : ℕ} (some : x ≠ 0) :
    (10 : ℚ) ^ leadingExponent (ratio x).1 (ratio x).2 ≤ value x := by
  rw [← ratio_value]
  refine leadingExponent_le ?_ (ratio_pos x)
  intro zero
  have pos := value_pos some
  rw [← ratio_value, zero] at pos
  simp at pos

theorem quarterBounds_low {x : ℕ} (some : x ≠ 0) :
    ((quarterBounds x).1 : ℚ) ≤ 4 * (significand x - significand x / 2 ^ 54) := by
  have one := significand_pos some
  have bound : (significand x : ℚ) < 2 ^ 53 := by exact_mod_cast significand_lt x
  unfold quarterBounds
  split
  · rename_i power
    have same : (significand x : ℚ) = 2 ^ 52 := by
      have steps_eq : significand x = 2 ^ 52 := by
        simp only [Bool.and_eq_true, decide_eq_true_eq] at power
        exact power.1
      exact_mod_cast steps_eq
    rw [Nat.cast_sub (by omega)]
    push_cast
    linarith
  · rw [Nat.cast_sub (by omega)]
    push_cast
    linarith

/-- An error below one part in 2 ^ 54 is too small to leave the interval. -/
theorem rounds_of_close {x : ℕ} {q : ℚ} (some : x ≠ 0) (low : value x - value x / 2 ^ 54 < q)
    (high : q < value x + value x / 2 ^ 54) : Rounds x q := by
  have bound : (significand x : ℚ) < 2 ^ 53 := by exact_mod_cast significand_lt x
  have unit := two_zpow_pos (exponent x)
  have top : ((quarterBounds x).2 : ℚ) = 4 * significand x + 2 := by
    exact_mod_cast (quarterBounds_le x).2
  have strictLow : (quarterBounds x).1 / 4 * 2 ^ exponent x < q := by
    refine lt_of_le_of_lt ?_ low
    calc ((quarterBounds x).1 / 4 * 2 ^ exponent x : ℚ)
        ≤ (significand x - significand x / 2 ^ 54) * 2 ^ exponent x :=
          mul_le_mul_of_nonneg_right (by linarith [quarterBounds_low some]) unit.le
      _ = value x - value x / 2 ^ 54 := by rw [value]; ring
  have strictHigh : q < (quarterBounds x).2 / 4 * 2 ^ exponent x := by
    refine lt_of_lt_of_le high ?_
    calc value x + value x / 2 ^ 54
        = (significand x + significand x / 2 ^ 54) * 2 ^ exponent x := by rw [value]; ring
      _ ≤ ((quarterBounds x).2 / 4 * 2 ^ exponent x : ℚ) :=
          mul_le_mul_of_nonneg_right (by linarith) unit.le
  exact ⟨⟨strictLow.le, strictHigh.le⟩, fun _ => ⟨strictLow, strictHigh⟩⟩

theorem rounds_nearest {x : ℕ} (some : x ≠ 0) {e : ℤ} (fine : (10 : ℚ) ^ e * 10 ^ 16 ≤ value x) :
    Rounds x (nearest (inUnits (ratio x).1 (ratio x).2 e).1 (inUnits (ratio x).1 (ratio x).2 e).2 *
      10 ^ e) := by
  have unit := ten_zpow_pos e
  have pos := value_pos some
  have near := (nearest_near (inUnits (ratio x).1 (ratio x).2 e).1
    (inUnits_pos (ratio x).1 (ratio_pos x) e)).1
  rw [inUnits_ratio, ratio_value, le_div_iff₀ unit, div_le_iff₀ unit] at near
  apply rounds_of_close some <;> linarith

theorem digitsOfCount?_some {x : ℕ} (some : x ≠ 0) :
    (digitsOfCount? x (leadingExponent (ratio x).1 (ratio x).2) 17).isSome = true := by
  have fine : (10 : ℚ) ^ (leadingExponent (ratio x).1 (ratio x).2 - Int.ofNat (17 - 1)) * 10 ^ 16 ≤
      value x := by
    rw [zpow_sub₀ (by norm_num)]
    norm_num
    exact lead_le_value some
  have found := (readsBack_iff some _ _).2 (rounds_nearest some fine)
  unfold digitsOfCount?
  dsimp only
  rw [if_pos found]
  rfl

theorem digitsOfCount?_reads {x : ℕ} {lead : ℤ} {count : ℕ} {found : ℕ × ℤ}
    (digits : digitsOfCount? x lead count = some found) : readsBack x found.2 found.1 = true := by
  unfold digitsOfCount? at digits
  dsimp only at digits
  generalize inUnits (ratio x).1 (ratio x).2 (lead - Int.ofNat (count - 1)) = units at digits
  generalize (if nearest units.1 units.2 = units.1 / units.2 then units.1 / units.2 + 1
    else units.1 / units.2) = far at digits
  split at digits
  · rename_i reads
    cases digits
    exact reads
  · split at digits
    · rename_i reads
      cases digits
      exact reads
    · cases digits

theorem shortest_rounds {x : ℕ} (some : x ≠ 0) :
    Rounds x ((shortest x).1 * 10 ^ (shortest x).2) := by
  have exists_digits : ((List.range 17).findSome? fun i =>
      digitsOfCount? x (leadingExponent (ratio x).1 (ratio x).2) (i + 1)).isSome = true := by
    rw [List.findSome?_isSome_iff]
    exact ⟨16, by decide, digitsOfCount?_some some⟩
  unfold shortest
  rw [if_neg some]
  dsimp only
  split
  · rename_i found search
    obtain ⟨i, _, digits⟩ := List.exists_of_findSome?_eq_some search
    exact (readsBack_iff some _ _).1 (digitsOfCount?_reads digits)
  · rename_i search
    rw [search] at exists_digits
    cases exists_digits

theorem shortest_zero : shortest 0 = (0, 0) := rfl

end DocSearch.Magnitude

namespace DocSearch.Double
open Magnitude

theorem ofRatio?_of_rounds {x : Double} {num den : ℕ} (some : x.magnitude ≠ 0) (pos : 0 < den)
    (rounds : Rounds x.magnitude (num / den)) : ofRatio? x.negative num den = .some x := by
  unfold ofRatio?
  rw [ofRatio_of_rounds some pos rounds]
  exact dif_pos x.finite

theorem rounds_bounds {x : Double} {q : ℚ} (some : x.magnitude ≠ 0)
    (rounds : Rounds x.magnitude q) :
    (10 : ℚ) ^ (-330 : ℤ) < q ∧ q < 10 ^ (310 : ℤ) := by
  obtain ⟨⟨low, high⟩, _⟩ := rounds.near
  have one : (1 : ℚ) ≤ significand x.magnitude := by exact_mod_cast significand_pos some
  have bound : (significand x.magnitude : ℚ) + 1 ≤ 2 ^ 53 := by
    exact_mod_cast significand_lt x.magnitude
  have unit := two_zpow_pos (exponent x.magnitude)
  have least : (2 : ℚ) ^ (-1074 : ℤ) ≤ 2 ^ exponent x.magnitude :=
    zpow_le_zpow_right₀ one_le_two (least_exponent _)
  have greatest : (2 : ℚ) ^ exponent x.magnitude ≤ 2 ^ (971 : ℤ) :=
    zpow_le_zpow_right₀ one_le_two (exponent_le x.finite)
  have tiny : (2 : ℚ) ^ 1075 < 10 ^ 330 := by
    exact_mod_cast (by decide +kernel : 2 ^ 1075 < 10 ^ 330)
  have huge : (2 : ℚ) ^ 1024 < 10 ^ 310 := by
    exact_mod_cast (by decide +kernel : 2 ^ 1024 < 10 ^ 310)
  rw [le_div_iff₀ unit] at low
  rw [div_le_iff₀ unit] at high
  constructor
  · calc (10 : ℚ) ^ (-330 : ℤ) < 2 ^ (-1075 : ℤ) := by
          rw [zpow_neg, zpow_neg]
          exact inv_strictAnti₀ (by positivity) tiny
      _ = 1 / 2 * 2 ^ (-1074 : ℤ) := by rw [one_div, ← zpow_neg_one, ← zpow_add₀ two_ne_zero]; rfl
      _ ≤ 1 / 2 * 2 ^ exponent x.magnitude := by linarith
      _ ≤ (significand x.magnitude - 1 / 2) * 2 ^ exponent x.magnitude :=
          mul_le_mul_of_nonneg_right (by linarith) unit.le
      _ ≤ q := low
  · calc q ≤ (significand x.magnitude + 1 / 2) * 2 ^ exponent x.magnitude := high
      _ ≤ 2 ^ 53 * 2 ^ exponent x.magnitude := mul_le_mul_of_nonneg_right (by linarith) unit.le
      _ ≤ 2 ^ 53 * 2 ^ (971 : ℤ) := by linarith
      _ = 2 ^ 1024 := by rw [← zpow_natCast, ← zpow_add₀ two_ne_zero]; rfl
      _ < 10 ^ (310 : ℤ) := huge

theorem ofDecimal?_of_rounds {x : Double} {n : ℕ} {e : ℤ} (some : x.magnitude ≠ 0)
    (rounds : Rounds x.magnitude (n * 10 ^ e)) : ofDecimal? x.negative n e = .some x := by
  have positive := rounds.pos some
  have digits : n ≠ 0 := by
    rintro rfl
    simp at positive
  obtain ⟨least, most⟩ := rounds_bounds some rounds
  obtain ⟨low, high⟩ := decimal_bounds digits e
  have notLarge : ¬ 310 < e + Int.ofNat (Nat.toDigits 10 n).length := by
    intro large
    have order : (10 : ℚ) ^ (310 : ℤ) ≤ 10 ^ (e + Int.ofNat (Nat.toDigits 10 n).length - 1) :=
      zpow_le_zpow_right₀ (by norm_num) (by omega)
    linarith
  have notSmall : ¬ e + Int.ofNat (Nat.toDigits 10 n).length < -330 := by
    intro small
    have order : (10 : ℚ) ^ (e + Int.ofNat (Nat.toDigits 10 n).length) ≤ 10 ^ (-330 : ℤ) :=
      zpow_le_zpow_right₀ (by norm_num) small.le
    linarith
  unfold ofDecimal?
  simp only [if_neg digits, if_neg notLarge, if_neg notSmall]
  cases e with
  | ofNat e =>
    refine ofRatio?_of_rounds some Nat.one_pos ?_
    simpa using rounds
  | negSucc e =>
    refine ofRatio?_of_rounds some (Nat.pow_pos (by decide)) ?_
    simpa [zpow_negSucc, div_eq_mul_inv] using rounds

end DocSearch.Double
