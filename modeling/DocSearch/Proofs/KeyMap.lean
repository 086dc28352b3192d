import Mathlib.Data.List.Nodup
import DocSearch.KeyMap

/- Lists of entries in the ascending order of their keys: what is found in them, and that their
entries alone determine them. -/
namespace DocSearch

universe u
variable {α : Type u}

theorem Ascending.sublist {entries part : List (String × α)} (sorted : Ascending entries)
    (sub : part.Sublist entries) : Ascending part :=
  List.Pairwise.sublist sub sorted

theorem Ascending.keys_nodup {entries : List (String × α)} (sorted : Ascending entries) :
    (entries.map Prod.fst).Nodup := by
  rw [List.Nodup, List.pairwise_map]
  refine List.Pairwise.imp ?_ sorted
  intro x y below same
  exact String.lt_irrefl _ (same ▸ below)

theorem Ascending.of_keys {β : Type u} {a : List (String × α)} {b : List (String × β)}
    (sorted : Ascending a) (same : b.map Prod.fst = a.map Prod.fst) : Ascending b := by
  have keys : (a.map Prod.fst).Pairwise (· < ·) := List.pairwise_map.2 sorted
  rw [← same] at keys
  exact List.pairwise_map.1 keys

theorem Ascending.nodup {entries : List (String × α)} (sorted : Ascending entries) :
    entries.Nodup :=
  List.Nodup.of_map Prod.fst sorted.keys_nodup

theorem Ascending.eq_of_perm {a b : List (String × α)} (ha : Ascending a) (hb : Ascending b)
    (perm : a.Perm b) : a = b := by
  refine List.Perm.eq_of_pairwise ?_ ha hb perm
  intro x y _ _ below above
  exact absurd (String.lt_trans below above) (String.lt_irrefl _)

theorem Ascending.keys_eq {β : Type u} {a : List (String × α)} {b : List (String × β)}
    (ha : Ascending a) (hb : Ascending b)
    (same : ∀ key, key ∈ a.map Prod.fst ↔ key ∈ b.map Prod.fst) :
    a.map Prod.fst = b.map Prod.fst := by
  have perm := (List.perm_ext_iff_of_nodup ha.keys_nodup hb.keys_nodup).2 same
  refine perm.eq_of_pairwise ?_ (List.pairwise_map.2 ha) (List.pairwise_map.2 hb)
  intro k l _ _ below above
  exact absurd (String.lt_trans below above) (String.lt_irrefl k)

theorem Ascending.key_new {sorted before after : List (String × α)} {entry : String × α}
    (ascending : Ascending sorted) (perm : sorted.Perm (before ++ entry :: after)) :
    entry.1 ∉ before.map Prod.fst := by
  have distinct := (perm.map Prod.fst).nodup_iff.1 ascending.keys_nodup
  rw [List.map_append, List.map_cons] at distinct
  intro old
  exact (List.nodup_append.1 distinct).2.2 _ old _ (by simp) rfl

theorem lookup_cons_if (key k : String) (v : α) (rest : List (String × α)) :
    ((k, v) :: rest).lookup key = if key = k then some v else rest.lookup key := by
  rw [List.lookup_cons]
  by_cases same : key = k
  · rw [beq_iff_eq.2 same, if_pos same]
  · rw [beq_eq_false_iff_ne.2 same, if_neg same]

theorem lookup_of_mem {entries : List (String × α)} (distinct : (entries.map Prod.fst).Nodup)
    {key : String} {value : α} (member : (key, value) ∈ entries) :
    entries.lookup key = some value := by
  induction entries with
  | nil => simp at member
  | cons head rest ih =>
    obtain ⟨k, v⟩ := head
    obtain ⟨new, distinctRest⟩ := List.nodup_cons.1 distinct
    rcases List.mem_cons.1 member with same | later
    · cases same
      simp
    · have different : key ≠ k := by
        rintro rfl
        exact new (List.mem_map.2 ⟨_, later, rfl⟩)
      rw [lookup_cons_if, if_neg different]
      exact ih distinctRest later

theorem mem_of_lookup {entries : List (String × α)} {key : String} {value : α}
    (found : entries.lookup key = some value) : (key, value) ∈ entries := by
  obtain ⟨before, after, rfl, _⟩ := List.lookup_eq_some_iff.1 found
  simp

theorem lookup_of_perm {entries others : List (String × α)} (order : entries.Perm others)
    (distinct : (entries.map Prod.fst).Nodup) (key : String) :
    entries.lookup key = others.lookup key := by
  have distinctToo := (order.map Prod.fst).nodup_iff.1 distinct
  apply Option.ext
  intro value
  constructor
  · intro found
    exact lookup_of_mem distinctToo (order.subset (mem_of_lookup found))
  · intro found
    exact lookup_of_mem distinct (order.symm.subset (mem_of_lookup found))

theorem lookup_map_values {β : Type u} (f : α → β) (entries : List (String × α)) (key : String) :
    (entries.map fun entry => (entry.1, f entry.2)).lookup key = (entries.lookup key).map f := by
  induction entries with
  | nil => rfl
  | cons head rest ih =>
    rw [List.map_cons, lookup_cons_if, lookup_cons_if, ih]
    split <;> rfl

theorem Ascending.ext {a b : List (String × α)} (ha : Ascending a) (hb : Ascending b)
    (same : ∀ key, a.lookup key = b.lookup key) : a = b := by
  have entry_iff : ∀ entry, entry ∈ a ↔ entry ∈ b := by
    rintro ⟨key, value⟩
    constructor
    · intro member
      exact mem_of_lookup (same key ▸ lookup_of_mem ha.keys_nodup member)
    · intro member
      exact mem_of_lookup (same key ▸ lookup_of_mem hb.keys_nodup member)
  exact ha.eq_of_perm hb ((List.perm_ext_iff_of_nodup ha.nodup hb.nodup).2 entry_iff)

theorem lookup_filter_keys (kept : String → Bool) (entries : List (String × α)) (key : String) :
    (entries.filter fun entry => kept entry.1).lookup key =
      if kept key = true then entries.lookup key else none := by
  induction entries with
  | nil => simp
  | cons head rest ih =>
    obtain ⟨k, v⟩ := head
    by_cases keeps : kept k = true
    · rw [List.filter_cons, if_pos keeps, lookup_cons_if, lookup_cons_if, ih]
      by_cases same : key = k
      · rw [if_pos same, if_pos same, same, if_pos keeps]
      · rw [if_neg same, if_neg same]
    · rw [List.filter_cons, if_neg keeps, lookup_cons_if, ih]
      by_cases same : key = k
      · rw [same, if_neg keeps, if_neg keeps]
      · rw [if_neg same]

theorem lookup_place (key : String) (value : α) (entries : List (String × α)) (k : String) :
    (place key value entries).lookup k = if k = key then some value else entries.lookup k := by
  induction entries with
  | nil => rw [place, lookup_cons_if]
  | cons head rest ih =>
    obtain ⟨l, v⟩ := head
    simp only [place]
    split
    · rw [lookup_cons_if]
    · split
      · rename_i above
        rw [lookup_cons_if, lookup_cons_if, ih]
        by_cases hk : k = key
        · have different : k ≠ l := fun same => String.lt_irrefl _ (same ▸ hk ▸ above)
          rw [if_neg different, if_pos hk, if_pos hk]
        · rw [if_neg hk, if_neg hk]
      · rename_i notBelow notAbove
        have same : key = l := String.le_antisymm notAbove notBelow
        subst same
        rw [lookup_cons_if, lookup_cons_if]
        split <;> rfl

theorem place_perm {key : String} {entries : List (String × α)} (value : α)
    (new : key ∉ entries.map Prod.fst) :
    (place key value entries).Perm ((key, value) :: entries) := by
  induction entries with
  | nil => simp [place]
  | cons head rest ih =>
    obtain ⟨k, v⟩ := head
    simp only [List.map_cons, List.mem_cons, not_or] at new
    simp only [place]
    split
    · exact List.Perm.refl _
    · split
      · exact ((ih new.2).cons _).trans (List.Perm.swap _ _ _)
      · rename_i notBelow notAbove
        exact absurd (String.le_antisymm notAbove notBelow) new.1

namespace KeyMap

theorem get?_eq_some {map : KeyMap α} {key : String} {value : α} :
    map.get? key = some value ↔ (key, value) ∈ map.entries :=
  ⟨mem_of_lookup, lookup_of_mem map.ascending.keys_nodup⟩

theorem contains_iff {map : KeyMap α} {key : String} : map.contains key = true ↔ key ∈ map.keys := by
  simp [contains, Option.isSome_iff_exists, get?_eq_some, keys]

theorem keys_ascending (map : KeyMap α) : map.keys.Pairwise (· < ·) :=
  List.pairwise_map.2 map.ascending

theorem entries_ofList_perm {entries : List (String × α)}
    (distinct : (entries.map Prod.fst).Nodup) :
    (ofList entries).entries.Perm entries := by
  induction entries with
  | nil => exact List.Perm.refl _
  | cons head rest ih =>
    obtain ⟨new, distinctRest⟩ := List.nodup_cons.1 distinct
    have perm := ih distinctRest
    have absent : head.1 ∉ (ofList rest).entries.map Prod.fst := by
      rwa [(perm.map Prod.fst).mem_iff]
    exact (place_perm head.2 absent).trans (perm.cons head)

theorem entries_ofList_of_perm {entries sorted : List (String × α)} (ascending : Ascending sorted)
    (perm : sorted.Perm entries) : (ofList entries).entries = sorted := by
  have distinct : (entries.map Prod.fst).Nodup :=
    (perm.map Prod.fst).nodup_iff.1 ascending.keys_nodup
  exact (ofList entries).ascending.eq_of_perm ascending
    ((entries_ofList_perm distinct).trans perm.symm)

theorem entries_ofList {entries : List (String × α)} (ascending : Ascending entries) :
    (ofList entries).entries = entries :=
  entries_ofList_of_perm ascending (List.Perm.refl _)

theorem eq_of_entries {a b : KeyMap α} (same : a.entries = b.entries) : a = b := by
  cases a
  cases b
  congr

theorem ofList_entries (map : KeyMap α) : ofList map.entries = map :=
  eq_of_entries (entries_ofList map.ascending)

end KeyMap
end DocSearch
