import DocSearch.Proofs.KeyMap
import DocSearch.Store.Basic

/- What stands in a bounded table, and in which order, after an entry was used, put there or forgotten. -/
namespace DocSearch

namespace Recent
variable {α : Type} {entries : Recent α} {key : String} {entry : String × α}

theorem mem_of_mem_promote (member : entry ∈ promote entries key) : entry ∈ entries := by
  unfold promote at member
  split at member
  · rename_i found
    rcases List.mem_cons.1 member with rfl | rest
    · exact mem_of_lookup found
    · exact List.mem_of_mem_filter rest
  · exact member

theorem mem_put {capacity : Nat} {a : α} (member : entry ∈ put capacity entries key a) :
    entry = (key, a) ∨ entry ∈ entries :=
  (List.mem_cons.1 (List.mem_of_mem_take member)).imp_right List.mem_of_mem_filter

theorem lookup_put {capacity : Nat} (room : 0 < capacity) (entries : Recent α) (key : String)
    (a : α) : (put capacity entries key a).lookup key = some a := by
  obtain ⟨less, rfl⟩ := Nat.exists_eq_add_one.2 room
  rw [put, List.take_succ_cons, List.lookup_cons_self]

theorem lookup_forget (entries : Recent α) (key other : String) :
    (forget entries key).lookup other = if other = key then none else entries.lookup other := by
  have kept := lookup_filter_keys (fun k => decide (k ≠ key)) entries other
  rw [forget, kept]
  by_cases same : other = key <;> simp [same]

theorem lookup_promote (entries : Recent α) (key other : String) :
    (promote entries key).lookup other = entries.lookup other := by
  unfold promote
  split
  · rename_i found
    rw [lookup_cons_if, lookup_forget]
    split
    · rename_i same
      rw [same, found]
    · rfl
  · rfl

theorem lookup_take (entries : Recent α) (capacity : Nat) (key : String) :
    (entries.take capacity).lookup key = none ∨
      (entries.take capacity).lookup key = entries.lookup key := by
  induction entries generalizing capacity with
  | nil => simp
  | cons head rest ih =>
    cases capacity with
    | zero => simp
    | succ less =>
      obtain ⟨k, value⟩ := head
      rw [List.take_succ_cons, lookup_cons_if, lookup_cons_if]
      split
      · exact Or.inr rfl
      · exact ih less

theorem lookup_put_other (capacity : Nat) {key other : String} (differs : other ≠ key)
    (entries : Recent α) (a : α) : (put capacity entries key a).lookup other = none ∨
      (put capacity entries key a).lookup other = entries.lookup other := by
  have rest : ((key, a) :: forget entries key).lookup other = entries.lookup other := by
    rw [lookup_cons_if, if_neg differs, lookup_forget, if_neg differs]
  rw [put, ← rest]
  exact lookup_take _ capacity other

theorem not_contains_iff : entries.contains key = false ↔ entries.lookup key = none := by
  rw [contains, Option.isSome_eq_false_iff, Option.isNone_iff_eq_none]

theorem key_not_mem_forget (entries : Recent α) (key : String) :
    key ∉ (forget entries key).map Prod.fst := by
  intro member
  obtain ⟨entry, kept, same⟩ := List.mem_map.1 member
  exact of_decide_eq_true (List.mem_filter.1 kept).2 same

theorem forget_of_new (new : key ∉ entries.map Prod.fst) : forget entries key = entries := by
  apply List.filter_eq_self.2
  intro entry member
  apply decide_eq_true
  rintro rfl
  exact new (List.mem_map_of_mem member)

theorem not_mem_of_lookup (absent : entries.lookup key = none) : key ∉ entries.map Prod.fst := by
  intro member
  obtain ⟨entry, listed, rfl⟩ := List.mem_map.1 member
  simpa using List.lookup_eq_none_iff.1 absent entry listed

theorem forget_split (distinct : (entries.map Prod.fst).Nodup) {a : α}
    (found : entries.lookup key = some a) :
    ∃ front back, entries = front ++ (key, a) :: back ∧ forget entries key = front ++ back := by
  obtain ⟨front, back, rfl, _⟩ := List.lookup_eq_some_iff.1 found
  have new : key ∉ (front ++ back).map Prod.fst := by
    have perm : (front ++ (key, a) :: back).Perm ((key, a) :: (front ++ back)) := List.perm_middle
    exact (List.nodup_cons.1 ((perm.map Prod.fst).nodup_iff.1 distinct)).1
  refine ⟨front, back, rfl, ?_⟩
  rw [← forget_of_new new]
  simp [forget]

theorem forget_forget (entries : Recent α) (key : String) :
    forget (forget entries key) key = forget entries key :=
  forget_of_new (key_not_mem_forget entries key)

theorem forget_promote (entries : Recent α) (key : String) :
    forget (promote entries key) key = forget entries key := by
  unfold promote
  split
  · rw [forget, List.filter_cons_of_neg (by simp)]
    exact forget_forget entries key
  · rfl

theorem put_forget (capacity : Nat) (entries : Recent α) (key : String) (a : α) :
    put capacity (forget entries key) key a = put capacity entries key a := by
  rw [put, forget_forget, put]

structure Tidy (capacity : Nat) (entries : Recent α) : Prop where
  distinct : (entries.map Prod.fst).Nodup
  bounded : entries.length ≤ capacity

/-- What stands behind an entry that comes to the front: all others in their order, less the last one if
the entry is new and the table was full. -/
def behind (capacity : Nat) (entries : Recent α) (key : String) : Recent α :=
  if entries.contains key || entries.length < capacity then entries.forget key else entries.dropLast

theorem behind_sublist (capacity : Nat) (entries : Recent α) (key : String) :
    (behind capacity entries key).Sublist entries := by
  unfold behind
  split
  · exact List.filter_sublist
  · exact List.dropLast_sublist entries

theorem key_not_mem_behind (capacity : Nat) (entries : Recent α) (key : String) :
    key ∉ (behind capacity entries key).map Prod.fst := by
  unfold behind
  split
  · exact key_not_mem_forget entries key
  · rename_i neither
    have absent : entries.lookup key = none := by
      rw [← not_contains_iff]
      simp only [Bool.or_eq_true, not_or, Bool.not_eq_true] at neither
      exact neither.1
    intro member
    exact not_mem_of_lookup absent (((List.dropLast_sublist entries).map Prod.fst).subset member)

theorem promote_eq (capacity : Nat) {a : α} (found : entries.lookup key = some a) :
    promote entries key = (key, a) :: behind capacity entries key := by
  have old : entries.contains key = true := by rw [contains, found]; rfl
  rw [promote, found, behind, old, Bool.true_or, if_pos rfl]

namespace Tidy
variable {capacity : Nat} (tidy : Tidy capacity entries)
include tidy

theorem sublist {part : Recent α} (sub : part.Sublist entries) : Tidy capacity part :=
  ⟨tidy.distinct.sublist (sub.map Prod.fst), Nat.le_trans sub.length_le tidy.bounded⟩

theorem length_behind (room : 0 < capacity) (key : String) :
    (behind capacity entries key).length < capacity := by
  have bounded := tidy.bounded
  unfold behind
  split
  · rename_i either
    have shorter : (forget entries key).length ≤ entries.length := List.length_filter_le _ _
    rcases Bool.or_eq_true_iff.1 either with old | less
    · obtain ⟨a, found⟩ := Option.isSome_iff_exists.1 old
      obtain ⟨front, back, split, rest⟩ := forget_split tidy.distinct found
      rw [split, List.length_append, List.length_cons] at bounded
      rw [rest, List.length_append]
      omega
    · exact Nat.lt_of_le_of_lt shorter (of_decide_eq_true less)
  · rw [List.length_dropLast]
    omega

theorem put_eq (room : 0 < capacity) (key : String) (a : α) :
    put capacity entries key a = (key, a) :: behind capacity entries key := by
  have short := tidy.length_behind room key
  obtain ⟨less, rfl⟩ := Nat.exists_eq_add_one.2 room
  rw [put, List.take_succ_cons]
  congr 1
  unfold behind at short ⊢
  split
  · rename_i either
    rw [if_pos either] at short
    exact List.take_of_length_le (Nat.le_of_lt_succ short)
  · rename_i neither
    simp only [Bool.or_eq_true, not_or, Bool.not_eq_true, decide_eq_false_iff_not] at neither
    have full : entries.length = less + 1 := by
      have := tidy.bounded
      omega
    rw [forget_of_new (not_mem_of_lookup (not_contains_iff.1 neither.1)), List.dropLast_eq_take, full]
    rfl

theorem front (room : 0 < capacity) (key : String) (a : α) :
    Tidy capacity ((key, a) :: behind capacity entries key) :=
  ⟨List.nodup_cons.2 ⟨key_not_mem_behind capacity entries key,
      tidy.distinct.sublist ((behind_sublist capacity entries key).map Prod.fst)⟩,
    tidy.length_behind room key⟩

end Tidy

end Recent
end DocSearch
