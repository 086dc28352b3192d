import Mathlib.Data.List.Nodup
import Mathlib.Order.Bounds.Basic

/- Tables that are filled item by item. Each item has a key and goes into the entry of that key, so
that in the end an entry sums up all items of its key, in whatever order the entries stand. -/
namespace DocSearch

universe u v w

structure Gathering (Item : Type u) (Entry : Type v) (Key : Type w) where
  slot : Item → Key
  key : Entry → Key
  fresh : Item → Entry
  grown : Entry → Item → Entry
  key_fresh : ∀ item, key (fresh item) = slot item
  key_grown : ∀ entry item, key (grown entry item) = key entry

namespace Gathering
variable {Item : Type u} {Entry : Type v} {Key : Type w} [DecidableEq Key]
variable (g : Gathering Item Entry Key)

def add : List Entry → Item → List Entry
  | [], item => [g.fresh item]
  | entry :: rest, item =>
    if g.key entry = g.slot item then g.grown entry item :: rest else entry :: add rest item

/-- Each key of an item has one entry, and `Sums` relates the entry to all items of the key. -/
structure Summed (Sums : List Item → Entry → Prop) (items : List Item) (entries : List Entry) :
    Prop where
  distinct : (entries.map g.key).Nodup
  sums : ∀ entry ∈ entries, Sums (items.filter (g.slot · = g.key entry)) entry
  complete : ∀ item ∈ items, g.slot item ∈ entries.map g.key

structure Maintains (Sums : List Item → Entry → Prop) : Prop where
  start : ∀ item, Sums [item] (g.fresh item)
  grow : ∀ {group entry} item, Sums group entry → Sums (group ++ [item]) (g.grown entry item)

variable {g} {Sums : List Item → Entry → Prop} {items : List Item} {entries : List Entry}

theorem keys_add_old {item : Item} (old : g.slot item ∈ entries.map g.key) :
    (g.add entries item).map g.key = entries.map g.key := by
  induction entries with
  | nil => cases old
  | cons entry rest ih =>
    rw [add]
    split
    · rw [List.map_cons, List.map_cons, g.key_grown]
    · rename_i other
      rw [List.map_cons, List.map_cons]
      rcases List.mem_cons.1 old with same | later
      · exact absurd same.symm other
      · rw [ih later]

theorem add_new {item : Item} (new : g.slot item ∉ entries.map g.key) :
    g.add entries item = entries ++ [g.fresh item] := by
  induction entries with
  | nil => rfl
  | cons entry rest ih =>
    simp only [List.map_cons, List.mem_cons, not_or] at new
    rw [add, if_neg (Ne.symm new.1), ih new.2, List.cons_append]

theorem mem_add_old {item : Item} (distinct : (entries.map g.key).Nodup)
    (old : g.slot item ∈ entries.map g.key) {entry : Entry} (member : entry ∈ g.add entries item) :
    entry ∈ entries ∧ g.key entry ≠ g.slot item ∨
      ∃ before ∈ entries, g.key before = g.slot item ∧ entry = g.grown before item := by
  induction entries with
  | nil => cases old
  | cons first rest ih =>
    obtain ⟨firstOnce, restDistinct⟩ := List.nodup_cons.1 distinct
    rw [add] at member
    split at member
    · rename_i here
      rcases List.mem_cons.1 member with rfl | later
      · exact Or.inr ⟨first, by simp, here, rfl⟩
      · left
        refine ⟨List.mem_cons_of_mem _ later, fun same => firstOnce ?_⟩
        rw [here, ← same]
        exact List.mem_map_of_mem later
    · rename_i other
      rcases List.mem_cons.1 member with rfl | later
      · exact Or.inl ⟨by simp, other⟩
      · have oldLater := (List.mem_cons.1 old).resolve_left (Ne.symm other)
        rcases ih restDistinct oldLater later with ⟨kept, different⟩ | ⟨before, inside, grew⟩
        · exact Or.inl ⟨List.mem_cons_of_mem _ kept, different⟩
        · exact Or.inr ⟨before, List.mem_cons_of_mem _ inside, grew⟩

theorem summed_nil : g.Summed Sums [] [] :=
  ⟨List.nodup_nil, by simp, by simp⟩

theorem Summed.perm {other : List Entry} (summed : g.Summed Sums items entries)
    (perm : entries.Perm other) : g.Summed Sums items other where
  distinct := (perm.map g.key).nodup_iff.1 summed.distinct
  sums entry member := summed.sums entry (perm.mem_iff.2 member)
  complete item member := (perm.map g.key).mem_iff.1 (summed.complete item member)

theorem Summed.filter_new (summed : g.Summed Sums items entries) {key : Key}
    (new : key ∉ entries.map g.key) : items.filter (g.slot · = key) = [] := by
  apply List.filter_eq_nil_iff.2
  intro item member same
  rw [← of_decide_eq_true same] at new
  exact new (summed.complete item member)

theorem Summed.add (summed : g.Summed Sums items entries)
    (maintains : g.Maintains Sums) (item : Item) :
    g.Summed Sums (items ++ [item]) (g.add entries item) := by
  have apart {entry : Entry} (other : g.key entry ≠ g.slot item) :
      (items ++ [item]).filter (g.slot · = g.key entry) =
        items.filter (g.slot · = g.key entry) := by
    simp [List.filter_append, Ne.symm other]
  have joined : (items ++ [item]).filter (g.slot · = g.slot item) =
      items.filter (g.slot · = g.slot item) ++ [item] := by
    simp [List.filter_append]
  by_cases old : g.slot item ∈ entries.map g.key
  · have keys := keys_add_old old
    refine ⟨keys ▸ summed.distinct, ?_, ?_⟩
    · intro entry member
      rcases mem_add_old summed.distinct old member with ⟨kept, other⟩ | ⟨before, inside, here, rfl⟩
      · rw [apart other]
        exact summed.sums entry kept
      · rw [g.key_grown, here, joined, ← here]
        exact maintains.grow item (summed.sums before inside)
    · intro other member
      rw [keys]
      rcases List.mem_append.1 member with earlier | last
      · exact summed.complete other earlier
      · rwa [List.mem_singleton.1 last]
  · rw [add_new old]
    refine ⟨?_, ?_, ?_⟩
    · rw [List.map_append, List.map_singleton, g.key_fresh]
      exact List.nodup_append.2 ⟨summed.distinct, by simp, by
        intro a first b second same
        rw [List.mem_singleton.1 second] at same
        exact old (same ▸ first)⟩
    · intro entry member
      rcases List.mem_append.1 member with kept | last
      · have other : g.key entry ≠ g.slot item :=
          fun same => old (same ▸ List.mem_map_of_mem kept)
        rw [apart other]
        exact summed.sums entry kept
      · rw [List.mem_singleton.1 last, g.key_fresh, joined, summed.filter_new old]
        exact maintains.start item
    · intro other member
      rw [List.map_append, List.mem_append]
      rcases List.mem_append.1 member with earlier | last
      · exact Or.inl (summed.complete other earlier)
      · rw [List.mem_singleton.1 last, List.map_singleton, g.key_fresh]
        exact Or.inr (by simp)

theorem Summed.foldl_add (summed : g.Summed Sums items entries)
    (maintains : g.Maintains Sums) (more : List Item) :
    g.Summed Sums (items ++ more) (more.foldl g.add entries) := by
  induction more generalizing items entries with
  | nil => simpa using summed
  | cons item more ih =>
    have next := ih (summed.add maintains item)
    rwa [List.append_assoc] at next

end Gathering

section
variable {Item : Type u} {Value : Type v} [LinearOrder Value] (value : Item → Value)

theorem isGreatest_map_singleton (item : Item) :
    IsGreatest {v | v ∈ [item].map value} (value item) := by
  simp

theorem isGreatest_map_append {items : List Item} {best : Value}
    (greatest : IsGreatest {v | v ∈ items.map value} best) (item : Item) :
    IsGreatest {v | v ∈ (items ++ [item]).map value} (max best (value item)) := by
  have parts : {v | v ∈ (items ++ [item]).map value} =
      {v | v ∈ items.map value} ∪ {value item} := by
    ext v
    simp [or_comm]
  rw [parts]
  exact greatest.union isGreatest_singleton

end
end DocSearch
