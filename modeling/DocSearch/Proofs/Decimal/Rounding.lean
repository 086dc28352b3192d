import Mathlib.Algebra.Order.Field.Power
import Mathlib.Data.Rat.Cast.Order
import Mathlib.Tactic.FieldSimp
import Mathlib.Tactic.Linarith
import Mathlib.Tactic.NormNum
import Mathlib.Tactic.Positivity
import Mathlib.Tactic.Ring
import DocSearch.Decimal.Shortest

/- Rounding a quotient gives every magnitude back from the whole interval of quotients around it. -/
namespace DocSearch.Magnitude

/-- At most half a unit lies between the quotient and the whole number, and less if that is odd. -/
def NearWhole (q : ℚ) (k : ℕ) : Prop :=
  (k - 1 / 2 ≤ q ∧ q ≤ k + 1 / 2) ∧ (k % 2 = 1 → k - 1 / 2 < q ∧ q < k + 1 / 2)

theorem nearest_near (num : ℕ) {den : ℕ} (pos : 0 < den) :
    NearWhole (num / den) (nearest num den) := by
  have posQ : (0 : ℚ) < den := by exact_mod_cast pos
  generalize result : nearest num den = n
  have bounds : (2 * (n * den) ≤ 2 * num + den ∧ 2 * num ≤ 2 * (n * den) + den) ∧
      (n % 2 = 1 → 2 * (n * den) < 2 * num + den ∧ 2 * num < 2 * (n * den) + den) := by
    have parts := Nat.div_add_mod num den
    have small := Nat.mod_lt num pos
    unfold nearest at result
    dsimp only at result
    generalize num / den = whole at parts result
    generalize num % den = left at parts small result
    have same : den * whole = whole * den := Nat.mul_comm den whole
    split at result
    · subst result
      omega
    · split at result
      · subst result
        rw [Nat.add_mul]
        omega
      · have even : n % 2 = 0 := by omega
        obtain rfl | rfl : n = whole ∨ n = whole + 1 := by omega
        · omega
        · rw [Nat.add_mul]
          omega
  obtain ⟨⟨low, high⟩, odd⟩ := bounds
  simp only [NearWhole, le_div_iff₀ posQ, div_le_iff₀ posQ, lt_div_iff₀ posQ, div_lt_iff₀ posQ]
  have lowQ : (2 * (n * den) : ℚ) ≤ 2 * num + den := by exact_mod_cast low
  have highQ : (2 * num : ℚ) ≤ 2 * (n * den) + den := by exact_mod_cast high
  refine ⟨⟨by linarith, by linarith⟩, fun isOdd => ?_⟩
  have below : (2 * (n * den) : ℚ) < 2 * num + den := by exact_mod_cast (odd isOdd).1
  have above : (2 * num : ℚ) < 2 * (n * den) + den := by exact_mod_cast (odd isOdd).2
  exact ⟨by linarith, by linarith⟩

/-- Of two neighbours one is odd, so a half is near to one of them only. -/
theorem NearWhole.le {q : ℚ} {k l : ℕ} (near : NearWhole q k) (other : NearWhole q l) : k ≤ l := by
  by_contra above
  obtain ⟨⟨low, _⟩, odd⟩ := near
  obtain ⟨⟨_, high⟩, otherOdd⟩ := other
  have step : (l + 1 : ℚ) ≤ k := by exact_mod_cast Nat.lt_of_not_le above
  have same : k = l + 1 := by
    have close : (k : ℚ) ≤ l + 1 := by linarith
    exact_mod_cast le_antisymm close step
  rcases Nat.mod_two_eq_zero_or_one l with even | isOdd
  · linarith [(odd (by omega)).1]
  · linarith [(otherOdd isOdd).2]

theorem nearest_of_near {num den k : ℕ} (pos : 0 < den) (near : NearWhole (num / den) k) :
    nearest num den = k :=
  Nat.le_antisymm ((nearest_near num pos).le near) (near.le (nearest_near num pos))

theorem scaled_pos (num : ℕ) {den : ℕ} (pos : 0 < den) (e : ℤ) : 0 < (scaled num den e).2 := by
  cases e with
  | ofNat e => exact Nat.mul_pos pos (Nat.two_pow_pos e)
  | negSucc e => exact pos

theorem scaled_ratio (num den : ℕ) (e : ℤ) :
    ((scaled num den e).1 / (scaled num den e).2 : ℚ) = num / den / 2 ^ e := by
  cases e with
  | ofNat e => simp [scaled, div_div, Nat.pow_eq]
  | negSucc e =>
    simp only [scaled, Nat.pow_eq, zpow_negSucc, Nat.cast_mul, Nat.cast_pow, Nat.cast_ofNat,
      div_inv_eq_mul]
    ring

theorem two_zpow_pos (e : ℤ) : (0 : ℚ) < 2 ^ e := by positivity

theorem log2_bounds {n : ℕ} (some : n ≠ 0) :
    (2 : ℚ) ^ (n.log2 : ℤ) ≤ n ∧ (n : ℚ) < 2 ^ ((n.log2 : ℤ) + 1) := by
  constructor
  · rw [zpow_natCast]
    exact_mod_cast Nat.log2_self_le some
  · rw [← Int.natCast_succ, zpow_natCast]
    exact_mod_cast Nat.lt_log2_self

theorem log2_ratio {num den : ℕ} (some : num ≠ 0) (pos : den ≠ 0) :
    (2 : ℚ) ^ ((num.log2 : ℤ) - den.log2 - 1) < num / den ∧
      (num / den : ℚ) < 2 ^ ((num.log2 : ℤ) - den.log2 + 1) := by
  obtain ⟨numLow, numHigh⟩ := log2_bounds some
  obtain ⟨denLow, denHigh⟩ := log2_bounds pos
  have posQ : (0 : ℚ) < den := by exact_mod_cast Nat.pos_of_ne_zero pos
  rw [lt_div_iff₀ posQ, div_lt_iff₀ posQ]
  constructor
  · calc (2 : ℚ) ^ ((num.log2 : ℤ) - den.log2 - 1) * den
        < 2 ^ ((num.log2 : ℤ) - den.log2 - 1) * 2 ^ ((den.log2 : ℤ) + 1) :=
          mul_lt_mul_of_pos_left denHigh (two_zpow_pos _)
      _ = 2 ^ (num.log2 : ℤ) := by
          rw [← zpow_add₀ two_ne_zero]
          congr 1
          ring
      _ ≤ num := numLow
  · calc (num : ℚ) < 2 ^ ((num.log2 : ℤ) + 1) := numHigh
      _ = 2 ^ ((num.log2 : ℤ) - den.log2 + 1) * 2 ^ (den.log2 : ℤ) := by
          rw [← zpow_add₀ two_ne_zero]
          congr 1
          ring
      _ ≤ 2 ^ ((num.log2 : ℤ) - den.log2 + 1) * den :=
          mul_le_mul_of_nonneg_left denLow (two_zpow_pos _).le

/-- The exponent at which a quotient is rounded leaves a significand of at most 53 bits, and of no
fewer unless it is the least exponent. -/
theorem ofRatio_spec {num den : ℕ} (some : num ≠ 0) (pos : 0 < den) :
    ∃ e : ℤ, -1074 ≤ e ∧ (num / den / 2 ^ e : ℚ) < 2 ^ 53 ∧
      (-1074 < e → (2 ^ 52 : ℚ) ≤ num / den / 2 ^ e) ∧
      ∀ k, NearWhole (num / den / 2 ^ e) k → ofRatio num den = (e + 1074).toNat * steps + k := by
  obtain ⟨above, below⟩ := log2_ratio some (Nat.ne_of_gt pos)
  generalize width : (num.log2 : ℤ) - den.log2 = w at above below
  have lowest (e : ℤ) (least : w - 53 ≤ e) : (num / den / 2 ^ e : ℚ) < 2 ^ 54 := by
    rw [div_lt_iff₀ (two_zpow_pos e)]
    calc (num / den : ℚ) < 2 ^ (w + 1) := below
      _ ≤ 2 ^ (54 + e) := zpow_le_zpow_right₀ one_le_two (by omega)
      _ = 2 ^ 54 * 2 ^ e := by rw [zpow_add₀ two_ne_zero]; norm_cast
  have normal (e : ℤ) (least : e ≤ w - 53) : (2 ^ 52 : ℚ) ≤ num / den / 2 ^ e := by
    rw [le_div_iff₀ (two_zpow_pos e)]
    calc (2 ^ 52 * 2 ^ e : ℚ) = 2 ^ (52 + e) := by rw [zpow_add₀ two_ne_zero]; norm_cast
      _ ≤ 2 ^ (w - 1) := zpow_le_zpow_right₀ one_le_two (by omega)
      _ ≤ num / den := above.le
  unfold ofRatio
  simp only [if_neg some, Int.ofNat_eq_natCast, width]
  generalize chosen : max (w - 53) (-1074) = low
  have value := scaled_ratio num den low
  have lowPos := scaled_pos num pos low
  have test : (scaled num den low).2 * (2 * steps) ≤ (scaled num den low).1 ↔
      (2 ^ 53 : ℚ) ≤ num / den / 2 ^ low := by
    rw [← value, le_div_iff₀ (by exact_mod_cast lowPos), mul_comm]
    norm_num [steps]
    norm_cast
  split
  · rename_i large
    rw [test] at large
    have half : (num / den / 2 ^ (low + 1) : ℚ) = num / den / 2 ^ low / 2 := by
      rw [zpow_add_one₀ two_ne_zero, div_div, div_div, div_div]
    refine ⟨low + 1, by omega, ?_, fun _ => ?_, fun k near => ?_⟩
    · rw [half]
      linarith [lowest low (by omega)]
    · rw [half]
      linarith
    · rw [nearest_of_near (scaled_pos num pos _) (by rw [scaled_ratio]; exact near)]
  · rename_i small
    rw [test] at small
    refine ⟨low, by omega, lt_of_not_ge small, fun more => normal low (by omega), fun k near => ?_⟩
    rw [nearest_of_near (scaled_pos num pos _) (by rw [scaled_ratio]; exact near)]

def value (x : Magnitude) : ℚ := significand x * 2 ^ exponent x

theorem ratio_pos (x : ℕ) : 0 < (ratio x).2 := by
  unfold ratio
  split
  · exact Nat.one_pos
  · exact Nat.two_pow_pos _

theorem ratio_value (x : ℕ) : ((ratio x).1 / (ratio x).2 : ℚ) = value x := by
  unfold ratio value
  split
  · rename_i e positive
    simp [positive]
  · rename_i e negative
    simp only [negative, Nat.pow_eq, zpow_negSucc, Nat.cast_pow, Nat.cast_ofNat]
    rfl

theorem toNat_exponent (x : ℕ) : (exponent x + 1074).toNat = x / steps - 1 := by
  simp [exponent]

theorem least_exponent (x : ℕ) : -1074 ≤ exponent x := by
  simp only [exponent, Int.ofNat_eq_natCast]
  omega

theorem exponent_le {x : ℕ} (finite : x < limit) : exponent x ≤ 971 := by
  have bound : x / steps < 2047 := Nat.div_lt_of_lt_mul finite
  simp only [exponent, Int.ofNat_eq_natCast]
  omega

theorem steps_le_significand {x : ℕ} (large : steps ≤ x) : steps ≤ significand x := by
  rw [significand, if_neg (Nat.not_lt.2 large)]
  exact Nat.le_add_right _ _

theorem steps_le_of_exponent {x : ℕ} (more : -1074 < exponent x) : 2 * steps ≤ x := by
  have toNat := toNat_exponent x
  have two : 2 ≤ x / steps := by omega
  exact (Nat.le_div_iff_mul_le (by decide)).1 two

theorem significand_lt (x : ℕ) : significand x < 2 ^ 53 := by
  have rest := Nat.mod_lt x (by decide : 0 < steps)
  by_cases small : x < steps
  · rw [significand, if_pos small]
    exact Nat.lt_trans small (by decide)
  · rw [significand, if_neg small]
    exact Nat.add_lt_add_left rest steps

theorem significand_pos {x : ℕ} (some : x ≠ 0) : 0 < significand x := by
  unfold significand
  split
  · exact Nat.pos_of_ne_zero some
  · exact Nat.lt_of_lt_of_le (by decide : 0 < steps) (Nat.le_add_right _ _)

theorem parts_eq (x : ℕ) : (exponent x + 1074).toNat * steps + significand x = x := by
  rw [toNat_exponent]
  by_cases small : x < steps
  · rw [significand, if_pos small, Nat.div_eq_of_lt small]
    simp
  · rw [significand, if_neg small]
    have one : 1 ≤ x / steps := (Nat.le_div_iff_mul_le (by decide)).2 (by omega)
    have parts := Nat.div_add_mod x steps
    calc (x / steps - 1) * steps + (steps + x % steps)
        = (x / steps - 1 + 1) * steps + x % steps := by ring
      _ = steps * (x / steps) + x % steps := by rw [Nat.sub_add_cancel one, Nat.mul_comm]
      _ = x := parts

/-- The quotient lies in the interval around the number, and inside it if the significand is odd. -/
def Rounds (x : Magnitude) (q : ℚ) : Prop :=
  ((quarterBounds x).1 / 4 * 2 ^ exponent x ≤ q ∧ q ≤ (quarterBounds x).2 / 4 * 2 ^ exponent x) ∧
    (significand x % 2 = 1 →
      (quarterBounds x).1 / 4 * 2 ^ exponent x < q ∧ q < (quarterBounds x).2 / 4 * 2 ^ exponent x)

theorem quarterBounds_le (x : ℕ) :
    4 * significand x ≤ (quarterBounds x).1 + 2 ∧ (quarterBounds x).2 = 4 * significand x + 2 := by
  unfold quarterBounds
  dsimp only
  split
  · exact ⟨by dsimp only; omega, rfl⟩
  · exact ⟨by dsimp only; omega, rfl⟩

theorem Rounds.near {x : ℕ} {q : ℚ} (rounds : Rounds x q) :
    NearWhole (q / 2 ^ exponent x) (significand x) := by
  obtain ⟨low, high⟩ := quarterBounds_le x
  obtain ⟨⟨above, below⟩, odd⟩ := rounds
  have unit := two_zpow_pos (exponent x)
  have lowQ : (4 * significand x : ℚ) ≤ (quarterBounds x).1 + 2 := by exact_mod_cast low
  have highQ : ((quarterBounds x).2 : ℚ) = 4 * significand x + 2 := by exact_mod_cast high
  rw [← le_div_iff₀ unit] at above
  rw [← div_le_iff₀ unit] at below
  rw [← lt_div_iff₀ unit, ← div_lt_iff₀ unit] at odd
  refine ⟨⟨by linarith, by linarith⟩, fun isOdd => ?_⟩
  obtain ⟨strictAbove, strictBelow⟩ := odd isOdd
  exact ⟨by linarith, by linarith⟩

theorem Rounds.pos {x : ℕ} {q : ℚ} (rounds : Rounds x q) (some : x ≠ 0) : 0 < q := by
  obtain ⟨⟨low, _⟩, _⟩ := rounds.near
  have one : (1 : ℚ) ≤ significand x := by exact_mod_cast significand_pos some
  have scaled : 0 < q / 2 ^ exponent x := by linarith
  exact (div_pos_iff_of_pos_right (two_zpow_pos _)).1 scaled

theorem Rounds.power_low {x : ℕ} {q : ℚ} (rounds : Rounds x q) (power : significand x = steps)
    (more : steps < x) : (2 ^ 52 - 1 / 4 : ℚ) ≤ q / 2 ^ exponent x := by
  have bound : (quarterBounds x).1 = 2 ^ 54 - 1 := by
    have both : (decide (significand x = steps) && decide (steps < x)) = true := by
      simp [power, more]
    rw [quarterBounds, if_pos both, power]
    rfl
  have low := rounds.1.1
  rw [← le_div_iff₀ (two_zpow_pos _), bound] at low
  norm_num at low ⊢
  linarith

theorem div_two_zpow_anti {q : ℚ} (positive : 0 < q) {d e : ℤ} (order : d ≤ e) :
    q / 2 ^ e ≤ q / 2 ^ d :=
  div_le_div_of_nonneg_left positive.le (two_zpow_pos d) (zpow_le_zpow_right₀ one_le_two order)

theorem div_two_zpow_add (q : ℚ) (d e : ℤ) : q / 2 ^ (d + e) = q / 2 ^ d / 2 ^ e := by
  rw [zpow_add₀ two_ne_zero, div_div]

theorem Rounds.le_exponent {x : ℕ} {q : ℚ} (rounds : Rounds x q) (positive : 0 < q) {f : ℤ}
    (normal : -1074 < f → (2 ^ 52 : ℚ) ≤ q / 2 ^ f) : f ≤ exponent x := by
  by_contra above
  have least := least_exponent x
  have large := normal (by omega)
  have order := div_two_zpow_anti positive (by omega : exponent x + 1 ≤ f)
  have whole : (significand x : ℚ) + 1 ≤ 2 ^ 53 := by exact_mod_cast significand_lt x
  rw [div_two_zpow_add] at order
  norm_num at order large whole
  linarith [rounds.near.1.2]

/-- Only a quotient below a power of two fits into 53 bits of a finer unit, and then half the unit
is fine enough and the quotient is near to the power. -/
theorem Rounds.below_power {x : ℕ} {q : ℚ} (rounds : Rounds x q) (positive : 0 < q) {f : ℤ}
    (least : -1074 ≤ f) (finer : f < exponent x) (small : q / 2 ^ f < 2 ^ 53) :
    significand x = steps ∧ f = exponent x + -1 ∧ NearWhole (q / 2 ^ f) (2 ^ 53) := by
  have more := steps_le_of_exponent (by omega : -1074 < exponent x)
  have bound (d : ℤ) (reaches : f ≤ exponent x + d) : q / 2 ^ exponent x / 2 ^ d < 2 ^ 53 := by
    rw [← div_two_zpow_add]
    exact lt_of_le_of_lt (div_two_zpow_anti positive reaches) small
  have half := bound (-1) (by omega)
  have power : significand x = steps := by
    have low := steps_le_significand (by omega : steps ≤ x)
    have high : (significand x : ℚ) < 2 ^ 52 + 1 := by
      norm_num at half
      linarith [rounds.near.1.1]
    have highNat : significand x < steps + 1 := by
      rw [steps]
      exact_mod_cast high
    omega
  have low := rounds.power_low power (Nat.lt_of_lt_of_le (by decide) more)
  have next : f = exponent x + -1 := by
    by_contra different
    have quarter := bound (-2) (by omega)
    norm_num at quarter low
    linarith
  refine ⟨power, next, ?_⟩
  rw [next, div_two_zpow_add]
  norm_num at half low ⊢
  exact ⟨⟨by norm_num; linarith, by norm_num; linarith⟩, fun odd => absurd odd (by decide)⟩

theorem ofRatio_of_rounds {x : ℕ} {num den : ℕ} (some : x ≠ 0) (pos : 0 < den)
    (rounds : Rounds x (num / den)) : ofRatio num den = x := by
  have positive := rounds.pos some
  have numSome : num ≠ 0 := by
    rintro rfl
    simp at positive
  obtain ⟨f, least, small, normal, result⟩ := ofRatio_spec numSome pos
  rcases Int.lt_or_eq_of_le (rounds.le_exponent positive normal) with finer | same
  · obtain ⟨power, next, reached⟩ := rounds.below_power positive least finer small
    have parts := parts_eq x
    rw [power, (by omega : (exponent x + 1074).toNat = (f + 1074).toNat + 1)] at parts
    rw [Nat.add_mul, Nat.add_assoc, Nat.one_mul] at parts
    rw [result _ reached]
    exact parts
  · rw [same] at result
    rw [result _ rounds.near, parts_eq]

end DocSearch.Magnitude
