import Mathlib.Algebra.Order.Ring.Int
import DocSearch.Search.Scorer

/- Weights and scores as the whole numbers that they stand for: they have the order of these, and a sum, a
product or a quotient is the exact one as long as that fits 64 bits. No sum of two moderate weights comes
near the limit. -/
namespace DocSearch

instance wordOrder : LinearOrder Int64 where
  le_refl := Int64.le_refl
  le_trans _ _ _ := Int64.le_trans
  le_antisymm _ _ := Int64.le_antisymm
  le_total := Int64.le_total
  lt_iff_le_not_ge _ _ := Std.LawfulOrderLT.lt_iff _ _
  toDecidableLE := inferInstance
  toDecidableLT := inferInstance
  toDecidableEq := inferInstance

def FitsWord (n : Int) : Prop := -2 ^ 63 ≤ n ∧ n < 2 ^ 63

namespace FitsWord
variable {a b : Int64} {n : Int}

theorem toInt (a : Int64) : FitsWord a.toInt := ⟨a.le_toInt, a.toInt_lt⟩

theorem bmod_eq (fits : FitsWord n) : n.bmod (2 ^ 64) = n := by
  obtain ⟨low, high⟩ := fits
  apply Int.bmod_eq_of_le <;> omega

theorem toInt_add (fits : FitsWord (a.toInt + b.toInt)) : (a + b).toInt = a.toInt + b.toInt := by
  rw [Int64.toInt_add, fits.bmod_eq]

theorem toInt_mul (fits : FitsWord (a.toInt * b.toInt)) : (a * b).toInt = a.toInt * b.toInt := by
  rw [Int64.toInt_mul, fits.bmod_eq]

end FitsWord

section
variable (a b : Int64)

theorem toInt_max : (max a b).toInt = max a.toInt b.toInt := by
  rcases le_total a b with below | above
  · rw [max_eq_right below, max_eq_right (Int64.le_iff_toInt_le.1 below)]
  · rw [max_eq_left above, max_eq_left (Int64.le_iff_toInt_le.1 above)]

theorem toInt_min : (min a b).toInt = min a.toInt b.toInt := by
  rcases le_total a b with below | above
  · rw [min_eq_left below, min_eq_left (Int64.le_iff_toInt_le.1 below)]
  · rw [min_eq_right above, min_eq_right (Int64.le_iff_toInt_le.1 above)]

end

/-- Between numbers from zero up, division rounds down in both senses. -/
theorem toInt_div_of_nonneg {a b : Int64} (left : 0 ≤ a.toInt) (right : 0 ≤ b.toInt) :
    (a / b).toInt = a.toInt / b.toInt := by
  have quotient : a.toInt.tdiv b.toInt = a.toInt / b.toInt := Int.tdiv_eq_ediv_of_nonneg left
  have small : a.toInt / b.toInt ≤ a.toInt := Int.ediv_le_self _ left
  have positive : 0 ≤ a.toInt / b.toInt := Int.ediv_nonneg left right
  have fits := FitsWord.toInt a
  rw [Int64.toInt_div, quotient]
  exact FitsWord.bmod_eq ⟨by omega, lt_of_le_of_lt small fits.2⟩

namespace Scorer
variable {scorer : Scorer}

/-- The sum of two such weights can still be taken a hundred times. -/
def weightBound : Nat := (2 ^ 63 - 1) / 200

def Moderate (scorer : Scorer) : Prop :=
  ∀ weight ∈ scorer.weights, weight.2.toInt.natAbs ≤ weightBound

instance (scorer : Scorer) : Decidable scorer.Moderate :=
  inferInstanceAs (Decidable (∀ weight ∈ scorer.weights, weight.2.toInt.natAbs ≤ weightBound))

theorem Moderate.objectName (moderate : scorer.Moderate) (fullname term : List Char) :
    (scorer.objectName fullname term).toInt.natAbs ≤ weightBound := by
  unfold Scorer.objectName
  split
  · exact moderate ("obj_name_match", scorer.objNameMatch) (by simp [weights])
  · split
    · exact moderate ("obj_partial_match", scorer.objPartialMatch) (by simp [weights])
    · decide

theorem Moderate.priority (moderate : scorer.Moderate) (n : Int) :
    (scorer.priority n).toInt.natAbs ≤ weightBound := by
  unfold Scorer.priority
  split
  · exact moderate ("obj_prio_important", scorer.objPrioImportant) (by simp [weights])
  · split
    · exact moderate ("obj_prio_normal", scorer.objPrioNormal) (by simp [weights])
    · split
      · exact moderate ("obj_prio_unimportant", scorer.objPrioUnimportant) (by simp [weights])
      · exact moderate ("obj_prio_default", scorer.objPrioDefault) (by simp [weights])

end Scorer
end DocSearch
