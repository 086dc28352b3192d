import Mathlib.Data.List.Infix
import DocSearch.Text.Lowercase

/- The lowercase of a text in parts: a space keeps the two sides of it apart, and without a capital sigma, the
one letter whose lowercase depends on its neighbours, every part has its own. -/
namespace DocSearch.Text

theorem reachesCased_cons (c : Char) (s : List Char) : reachesCased (c :: s) =
    if inRanges caseIgnorableRanges c.toNat then reachesCased s
    else inRanges casedRanges c.toNat := by
  rw [reachesCased, List.dropWhile_cons]
  by_cases skipped : inRanges caseIgnorableRanges c.toNat = true
  · rw [if_pos skipped, if_pos skipped, reachesCased]
  · rw [if_neg skipped, if_neg skipped]

theorem reachesCased_space (near far : List Char) :
    reachesCased (near ++ ' ' :: far) = reachesCased near := by
  induction near with
  | nil =>
    have stops : inRanges caseIgnorableRanges ' '.toNat = false := by decide
    have uncased : inRanges casedRanges ' '.toNat = false := by decide
    rw [List.nil_append, reachesCased_cons, stops, if_neg Bool.false_ne_true, uncased]
    rfl
  | cons c near ih => rw [List.cons_append, reachesCased_cons, reachesCased_cons, ih]

theorem lowerFrom_space (near far s : List Char) :
    lowerFrom (near ++ ' ' :: far) s = lowerFrom near s := by
  induction s generalizing near with
  | nil => rfl
  | cons c s ih => rw [lowerFrom, lowerFrom, reachesCased_space, ← List.cons_append, ih]

theorem lowerFrom_append_space (passed a b : List Char) :
    lowerFrom passed (a ++ ' ' :: b) = lowerFrom passed a ++ ' ' :: lower b := by
  induction a generalizing passed with
  | nil =>
    have space : lowerChar ' ' = [' '] := by decide
    have here : lowerFrom passed (' ' :: b) = lowerChar ' ' ++ lowerFrom (' ' :: passed) b := by
      rw [lowerFrom, if_neg (by decide)]
    rw [List.nil_append, here, space, ← List.nil_append (' ' :: passed), lowerFrom_space]
    rfl
  | cons c a ih =>
    rw [List.cons_append, lowerFrom, lowerFrom, ih, reachesCased_space, List.append_assoc]

theorem lower_append_space (a b : List Char) : lower (a ++ ' ' :: b) = lower a ++ ' ' :: lower b :=
  lowerFrom_append_space [] a b

theorem lowerFrom_eq_flatMap {s : List Char} (plain : 'Σ' ∉ s) (passed : List Char) :
    lowerFrom passed s = s.flatMap lowerChar := by
  induction s generalizing passed with
  | nil => rfl
  | cons c s ih =>
    have first : c ≠ 'Σ' := fun same => plain (same ▸ List.mem_cons_self)
    have later : 'Σ' ∉ s := fun member => plain (List.mem_cons_of_mem _ member)
    rw [lowerFrom, if_neg first, ih later, List.flatMap_cons]

theorem lower_infix {part s : List Char} (plain : 'Σ' ∉ s) (inside : part <:+: s) :
    lower part <:+: lower s := by
  have plainPart : 'Σ' ∉ part := fun member => plain (inside.subset member)
  rw [lower, lower, lowerFrom_eq_flatMap plain, lowerFrom_eq_flatMap plainPart]
  exact inside.flatMap lowerChar

theorem lowercaseOfRun_cases (runs : List (Nat × Nat × Nat × Nat)) (n : Nat) :
    lowercaseOfRun runs n = n ∨ ∃ run ∈ runs, run.2.2.2 ≤ lowercaseOfRun runs n := by
  induction runs with
  | nil => exact Or.inl rfl
  | cons run runs ih =>
    obtain ⟨first, last, stride, target⟩ := run
    rw [lowercaseOfRun]
    split
    · exact Or.inl rfl
    · split
      · exact Or.inr ⟨_, List.mem_cons_self, Nat.le_add_right _ _⟩
      · exact ih.imp_right fun ⟨run, member, above⟩ => ⟨run, List.mem_cons_of_mem _ member, above⟩

theorem toNat_ofNat_cases (n : Nat) : (Char.ofNat n).toNat = n ∨ (Char.ofNat n).toNat = 0 := by
  by_cases valid : n.isValidChar
  · rw [Char.ofNat, dif_pos valid]
    exact Or.inl rfl
  · rw [Char.ofNat, dif_neg valid]
    exact Or.inr rfl

theorem eq_space_of_mem_lowerChar {c : Char} (member : ' ' ∈ lowerChar c) : c = ' ' := by
  unfold lowerChar at member
  split at member
  · simp at member
  · have code : 32 = (Char.ofNat (lowercaseOfRun lowercaseRuns c.toNat)).toNat :=
      congrArg Char.toNat (List.mem_singleton.1 member)
    have above : ∀ run ∈ lowercaseRuns, 32 < run.2.2.2 := by decide +kernel
    rcases lowercaseOfRun_cases lowercaseRuns c.toNat with same | ⟨run, listed, below⟩
    · rw [same, Char.ofNat_toNat] at code
      exact Char.toNat_inj.1 code.symm
    · have := above run listed
      rcases toNat_ofNat_cases (lowercaseOfRun lowercaseRuns c.toNat) with kept | lost <;> omega

theorem space_not_mem_lower {s : List Char} (unbroken : ' ' ∉ s) : ' ' ∉ lower s := by
  suffices all : ∀ passed, ' ' ∉ lowerFrom passed s from all []
  induction s with
  | nil => simp [lowerFrom]
  | cons c s ih =>
    intro passed member
    rw [lowerFrom] at member
    rcases List.mem_append.1 member with here | later
    · split at here
      · split at here <;> simp at here
      · exact unbroken (eq_space_of_mem_lowerChar here ▸ List.mem_cons_self)
    · exact ih (fun inside => unbroken (List.mem_cons_of_mem _ inside)) _ later

end DocSearch.Text
