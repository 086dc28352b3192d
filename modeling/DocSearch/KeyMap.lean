/- Finite maps from text keys, listed in the ascending order of their keys. -/
namespace DocSearch

universe u
variable {α : Type u}

def Ascending (entries : List (String × α)) : Prop := entries.Pairwise (fun a b => a.1 < b.1)

instance (entries : List (String × α)) : Decidable (Ascending entries) :=
  inferInstanceAs (Decidable (List.Pairwise _ _))

def place (key : String) (value : α) : List (String × α) → List (String × α)
  | [] => [(key, value)]
  | (k, v) :: rest =>
    if key < k then (key, value) :: (k, v) :: rest
    else if k < key then (k, v) :: place key value rest
    else (key, value) :: rest

theorem key_of_mem_place {key : String} {value : α} {entries : List (String × α)}
    {entry : String × α} (member : entry ∈ place key value entries) :
    entry.1 = key ∨ entry ∈ entries := by
  induction entries with
  | nil => simp_all [place]
  | cons head rest ih =>
    obtain ⟨k, v⟩ := head
    simp only [place] at member
    split at member
    · rcases List.mem_cons.1 member with rfl | later
      · exact Or.inl rfl
      · exact Or.inr later
    · split at member
      · rcases List.mem_cons.1 member with rfl | later
        · exact Or.inr (by simp)
        · rcases ih later with same | old
          · exact Or.inl same
          · exact Or.inr (by simp [old])
      · rcases List.mem_cons.1 member with rfl | later
        · exact Or.inl rfl
        · exact Or.inr (by simp [later])

theorem Ascending.place {entries : List (String × α)} (sorted : Ascending entries)
    (key : String) (value : α) : Ascending (place key value entries) := by
  induction entries with
  | nil => simp [DocSearch.place, Ascending]
  | cons head rest ih =>
    obtain ⟨k, v⟩ := head
    obtain ⟨first, tail⟩ := List.pairwise_cons.1 sorted
    simp only [DocSearch.place]
    split
    · rename_i below
      refine List.pairwise_cons.2 ⟨?_, sorted⟩
      intro entry member
      rcases List.mem_cons.1 member with rfl | later
      · exact below
      · exact String.lt_trans below (first entry later)
    · split
      · rename_i above
        refine List.pairwise_cons.2 ⟨?_, ih tail⟩
        intro entry member
        rcases key_of_mem_place member with same | old
        · simpa [same] using above
        · exact first entry old
      · rename_i notBelow notAbove
        have same : key = k := String.le_antisymm notAbove notBelow
        refine List.pairwise_cons.2 ⟨?_, tail⟩
        intro entry member
        simpa [same] using first entry member

structure KeyMap (α : Type u) where
  entries : List (String × α)
  ascending : Ascending entries

namespace KeyMap

instance [DecidableEq α] : DecidableEq (KeyMap α) := fun a b =>
  decidable_of_iff (a.entries = b.entries) (by cases a; cases b; simp)

def empty : KeyMap α := ⟨[], List.Pairwise.nil⟩

instance : Inhabited (KeyMap α) := ⟨empty⟩

instance : EmptyCollection (KeyMap α) := ⟨empty⟩

def insert (map : KeyMap α) (key : String) (value : α) : KeyMap α :=
  ⟨place key value map.entries, map.ascending.place key value⟩

/-- Of several entries with one key the first counts. -/
def ofList (entries : List (String × α)) : KeyMap α :=
  entries.foldr (fun entry map => map.insert entry.1 entry.2) empty

def get? (map : KeyMap α) (key : String) : Option α := map.entries.lookup key

def contains (map : KeyMap α) (key : String) : Bool := (map.get? key).isSome

def keys (map : KeyMap α) : List String := map.entries.map Prod.fst

def values (map : KeyMap α) : List α := map.entries.map Prod.snd

def size (map : KeyMap α) : Nat := map.entries.length

def isEmpty (map : KeyMap α) : Bool := map.entries.isEmpty

end KeyMap
end DocSearch
