import Mathlib.Data.List.Basic

/- Sorting by a key: what the sorted list owes to the order of the input is the order of the items of
each single key, and nothing else. -/
namespace DocSearch

universe u v
variable {α : Type u} {κ : Type v}

/-- A test that orders items by their keys alone, keys that are not the same one way only. -/
structure SortsBy (le : α → α → Bool) (key : α → κ) : Prop where
  trans : ∀ a b c, le a b = true → le b c = true → le a c = true
  total : ∀ a b, (le a b || le b a) = true
  antisymm : ∀ a b, le a b = true → le b a = true → key a = key b
  tie : ∀ a b, key a = key b → le a b = true

namespace SortsBy
variable {le : α → α → Bool} {key : α → κ}

theorem pairwise (sorts : SortsBy le key) (items : List α) :
    (items.mergeSort le).Pairwise fun a b => le a b = true :=
  List.pairwise_mergeSort sorts.trans sorts.total items

variable [DecidableEq κ]

theorem filter_mergeSort (sorts : SortsBy le key) (items : List α) (k : κ) :
    (items.mergeSort le).filter (key · = k) = items.filter (key · = k) := by
  have tied : (items.filter (key · = k)).Pairwise fun a b => le a b = true := by
    apply List.pairwise_of_forall_mem_list
    intro a first b second
    apply sorts.tie
    rw [of_decide_eq_true (List.mem_filter.1 first).2, of_decide_eq_true (List.mem_filter.1 second).2]
  have inside : (items.filter (key · = k)).Sublist (items.mergeSort le) :=
    List.sublist_mergeSort sorts.trans sorts.total tied List.filter_sublist
  have kept : (items.filter (key · = k)).Sublist ((items.mergeSort le).filter (key · = k)) := by
    simpa using inside.filter (key · = k)
  -- The items of the key are in the sorted list in their old order, and there are no more of them.
  have size := ((List.mergeSort_perm items le).filter (key · = k)).length_eq
  exact (kept.eq_of_length size.symm).symm

theorem mem_iff_of_filter {a b : List α}
    (same : ∀ k, a.filter (key · = k) = b.filter (key · = k)) (item : α) : item ∈ a ↔ item ∈ b := by
  have here := congrArg (item ∈ ·) (same (key item))
  simpa using here

/-- Sorted lists are the same when they have the same items of each key in the same order. -/
theorem eq_of_filter (sorts : SortsBy le key) {a b : List α}
    (sortedA : a.Pairwise fun x y => le x y = true) (sortedB : b.Pairwise fun x y => le x y = true)
    (same : ∀ k, a.filter (key · = k) = b.filter (key · = k)) : a = b := by
  induction a generalizing b with
  | nil =>
    cases b with
    | nil => rfl
    | cons y b => exact absurd ((mem_iff_of_filter same y).2 (by simp)) (by simp)
  | cons x a ih =>
    cases b with
    | nil => exact absurd ((mem_iff_of_filter same x).1 (by simp)) (by simp)
    | cons y b =>
      obtain ⟨leastX, laterA⟩ := List.pairwise_cons.1 sortedA
      obtain ⟨leastY, laterB⟩ := List.pairwise_cons.1 sortedB
      -- Each head is somewhere in the other list, so neither comes strictly before the other.
      have below : le x y = true := by
        rcases List.mem_cons.1 ((mem_iff_of_filter same y).2 (by simp)) with rfl | later
        · exact sorts.tie _ _ rfl
        · exact leastX y later
      have above : le y x = true := by
        rcases List.mem_cons.1 ((mem_iff_of_filter same x).1 (by simp)) with rfl | later
        · exact sorts.tie _ _ rfl
        · exact leastY x later
      have tie : key x = key y := sorts.antisymm x y below above
      have first := same (key y)
      rw [List.filter_cons_of_pos (by simp [tie]), List.filter_cons_of_pos (by simp)] at first
      obtain ⟨rfl, _⟩ := List.cons.inj first
      have rest (k : κ) : a.filter (key · = k) = b.filter (key · = k) := by
        by_cases here : key x = k
        · have both := same k
          rw [List.filter_cons_of_pos (by simp [here]), List.filter_cons_of_pos (by simp [here])]
            at both
          exact (List.cons.inj both).2
        · have both := same k
          rwa [List.filter_cons_of_neg (by simp [here]), List.filter_cons_of_neg (by simp [here])]
            at both
      rw [ih laterA laterB rest]

theorem mergeSort_congr (sorts : SortsBy le key) {a b : List α}
    (same : ∀ k, a.filter (key · = k) = b.filter (key · = k)) : a.mergeSort le = b.mergeSort le := by
  apply sorts.eq_of_filter (sorts.pairwise a) (sorts.pairwise b)
  intro k
  rw [sorts.filter_mergeSort, sorts.filter_mergeSort, same]

theorem mergeSort_filter (sorts : SortsBy le key) (kept : α → Bool) (items : List α) :
    (items.mergeSort le).filter kept = (items.filter kept).mergeSort le := by
  apply sorts.eq_of_filter ((sorts.pairwise items).sublist List.filter_sublist) (sorts.pairwise _)
  intro k
  rw [List.filter_comm, sorts.filter_mergeSort, sorts.filter_mergeSort, List.filter_comm]

end SortsBy
end DocSearch
