import Mathlib.Data.List.Nodup
import DocSearch.Index.Report

/- The spots of an index that the rules of integrity are about, in their order, and lists of violations
that go through all faulty spots in this order. -/
namespace DocSearch

def TypeTable.other : TypeTable → TypeTable
  | .objtypes => .objnames
  | .objnames => .objtypes

inductive Check
  | pages (field : PageField)
  | terms (field : TermField)
  | objects
  | types (table : TypeTable)

def Check.order : Check → Nat
  | .pages .titles => 0
  | .pages .filenames => 1
  | .terms .terms => 2
  | .terms .titleterms => 3
  | .objects => 4
  | .types .objtypes => 5
  | .types .objnames => 6

def Check.all : List Check :=
  [.pages .titles, .pages .filenames, .terms .terms, .terms .titleterms, .objects,
   .types .objtypes, .types .objnames]

theorem Check.mem_all (check : Check) : check ∈ Check.all := by
  cases check with
  | pages field => cases field <;> simp [all]
  | terms field => cases field <;> simp [all]
  | objects => simp [all]
  | types table => cases table <;> simp [all]

theorem Check.all_ascending : Check.all.Pairwise fun a b => a.order < b.order := by
  simp [all, order]

/-- A spot of an index that one rule is about. Postings are numbered within their term, objects over
all scopes. -/
inductive Spot
  | pages (field : PageField)
  | key (field : TermField) (term : String)
  | posting (field : TermField) (term : String) (number : Nat)
  | objectPage (number : Nat)
  | objectType (number : Nat) (table : TypeTable)
  | typeKey (table : TypeTable) (key : String)

namespace Spot

def check : Spot → Check
  | pages field => .pages field
  | key field _ => .terms field
  | posting field _ _ => .terms field
  | objectPage _ => .objects
  | objectType _ _ => .objects
  | typeKey table _ => .types table

def position : Spot → String × Nat × Nat
  | pages _ => ("", 0, 0)
  | key _ term => (term, 0, 0)
  | posting _ term number => (term, number + 1, 0)
  | objectPage number => ("", number, 0)
  | objectType number .objtypes => ("", number, 1)
  | objectType number .objnames => ("", number, 2)
  | typeKey _ entry => (entry, 0, 0)

def Before (a b : Spot) : Prop :=
  a.check.order < b.check.order ∨ a.check.order = b.check.order ∧
    (a.position.1 < b.position.1 ∨ a.position.1 = b.position.1 ∧
      (a.position.2.1 < b.position.2.1 ∨ a.position.2.1 = b.position.2.1 ∧
        a.position.2.2 < b.position.2.2))

theorem Before.asymm {a b : Spot} (before : a.Before b) : ¬ b.Before a := by
  rcases before with check | ⟨_, key | ⟨sameKey, below⟩⟩
  · rintro (check' | ⟨sameCheck', _⟩) <;> omega
  · rintro (check' | ⟨_, key' | ⟨sameKey', _⟩⟩)
    · omega
    · exact String.lt_irrefl _ (String.lt_trans key key')
    · exact String.lt_irrefl _ (sameKey' ▸ key)
  · rintro (check' | ⟨_, key' | ⟨_, below'⟩⟩)
    · omega
    · exact String.lt_irrefl _ (sameKey ▸ key')
    · omega

theorem Before.of_key {a b : Spot} (check : a.check = b.check)
    (below : a.position.1 < b.position.1) : a.Before b :=
  Or.inr ⟨congrArg Check.order check, Or.inl below⟩

theorem Before.of_row {a b : Spot} (check : a.check = b.check)
    (key : a.position.1 = b.position.1) (below : a.position.2.1 < b.position.2.1) : a.Before b :=
  Or.inr ⟨congrArg Check.order check, Or.inr ⟨key, Or.inl below⟩⟩

theorem Before.of_step {a b : Spot} (check : a.check = b.check)
    (key : a.position.1 = b.position.1) (row : a.position.2.1 = b.position.2.1)
    (below : a.position.2.2 < b.position.2.2) : a.Before b :=
  Or.inr ⟨congrArg Check.order check, Or.inr ⟨key, Or.inr ⟨row, below⟩⟩⟩

end Spot

theorem map_filter_eq_flatMap {α β : Type} (keep : α → Prop) [DecidablePred keep] (value : α → β)
    (items : List α) : (items.filter (keep ·)).map value =
      items.flatMap fun item => if keep item then [value item] else [] := by
  induction items with
  | nil => rfl
  | cons item items ih =>
    rw [List.flatMap_cons, ← ih, List.filter_cons]
    by_cases kept : keep item <;> simp [kept]

/-- The violations of all faulty spots and of no others, each once, in the order of the spots. -/
def Reports (violations : List Violation) (Fault : Spot → Violation → Prop) : Prop :=
  ∃ faults : List (Spot × Violation), faults.map Prod.snd = violations ∧
    faults.Pairwise (fun a b => a.1.Before b.1) ∧
      ∀ spot violation, (spot, violation) ∈ faults ↔ Fault spot violation

namespace Reports
variable {violations more : List Violation} {Fault Other : Spot → Violation → Prop}

theorem congr (reports : Reports violations Fault)
    (same : ∀ spot violation, Fault spot violation ↔ Other spot violation) :
    Reports violations Other := by
  obtain ⟨faults, listed, ordered, members⟩ := reports
  exact ⟨faults, listed, ordered, fun spot violation =>
    (members spot violation).trans (same spot violation)⟩

theorem nil (sound : ∀ spot violation, ¬ Fault spot violation) : Reports [] Fault :=
  ⟨[], rfl, List.Pairwise.nil, by simpa using sound⟩

theorem when (broken : Prop) [Decidable broken] (spot : Spot) (violation : Violation) :
    Reports (if broken then [violation] else [])
      fun s v => broken ∧ s = spot ∧ v = violation := by
  split
  · rename_i broken
    exact ⟨[(spot, violation)], rfl, List.pairwise_singleton _ _, by simp [broken]⟩
  · rename_i kept
    exact nil fun s v fault => kept fault.1

theorem whenNot (kept : Prop) [Decidable kept] (spot : Spot) (violation : Violation) :
    Reports (if kept then [] else [violation])
      fun s v => ¬ kept ∧ s = spot ∧ v = violation := by
  rw [← ite_not]
  exact when (¬ kept) spot violation

theorem optional {α : Type} (found : Option α) {check : α → List Violation}
    {FaultOf : α → Spot → Violation → Prop} (each : ∀ item, Reports (check item) (FaultOf item)) :
    Reports ((found.map check).getD []) fun s v => ∃ item, found = some item ∧ FaultOf item s v := by
  cases found with
  | none => exact nil (by simp)
  | some item => exact (each item).congr (by simp)

theorem append (first : Reports violations Fault) (second : Reports more Other)
    (order : ∀ s t v w, Fault s v → Other t w → s.Before t) :
    Reports (violations ++ more) fun s v => Fault s v ∨ Other s v := by
  obtain ⟨faults, listed, ordered, members⟩ := first
  obtain ⟨others, listed', ordered', members'⟩ := second
  refine ⟨faults ++ others, by rw [List.map_append, listed, listed'], ?_, ?_⟩
  · apply List.pairwise_append.2
    refine ⟨ordered, ordered', ?_⟩
    rintro ⟨s, v⟩ inFaults ⟨t, w⟩ inOthers
    exact order s t v w ((members s v).1 inFaults) ((members' t w).1 inOthers)
  · intro spot violation
    rw [List.mem_append, members, members']

theorem flatMap {α : Type} {items : List α} {check : α → List Violation}
    {FaultOf : α → Spot → Violation → Prop}
    (each : ∀ item ∈ items, Reports (check item) (FaultOf item))
    (order : items.Pairwise fun a b => ∀ s t v w, FaultOf a s v → FaultOf b t w → s.Before t) :
    Reports (items.flatMap check) fun s v => ∃ item ∈ items, FaultOf item s v := by
  induction items with
  | nil => exact nil (by simp)
  | cons item items ih =>
    obtain ⟨here, later⟩ := List.pairwise_cons.1 order
    obtain ⟨first, rest⟩ := List.forall_mem_cons.1 each
    have parts := first.append (ih rest later) (by
      rintro s t v w fault ⟨other, member, faultLater⟩
      exact here other member s t v w fault faultLater)
    exact parts.congr (by simp)

theorem numbered {α : Type} {items : List α} {check : α → List Violation}
    {FaultOf : α → Nat → Spot → Violation → Prop}
    (each : ∀ item number, Reports (check item) (FaultOf item number))
    (order : ∀ a b i j, i < j → ∀ s t v w, FaultOf a i s v → FaultOf b j t w → s.Before t) :
    Reports (items.flatMap check)
      fun s v => ∃ item number, items[number]? = some item ∧ FaultOf item number s v := by
  have ascending : (items.zipIdx.map Prod.snd).Pairwise (· < ·) := by
    rw [List.zipIdx_map_snd]
    exact List.pairwise_lt_range'
  have apart : items.zipIdx.Pairwise fun a b => ∀ s t v w,
      FaultOf a.1 a.2 s v → FaultOf b.1 b.2 t w → s.Before t :=
    (List.pairwise_map.1 ascending).imp fun {a b} below => order a.1 b.1 a.2 b.2 below
  -- Each item goes with its number, which takes the place of the order of the items.
  have parts := flatMap (fun item _ => each item.1 item.2) apart
  rw [← List.flatMap_map Prod.fst check, List.zipIdx_map_fst] at parts
  exact parts.congr (by simp [List.mem_zipIdx_iff_getElem?])

theorem unique (first : Reports violations Fault) (second : Reports more Fault) :
    violations = more := by
  obtain ⟨faults, rfl, ordered, members⟩ := first
  obtain ⟨others, rfl, ordered', members'⟩ := second
  have nodup {faults : List (Spot × Violation)}
      (ordered : faults.Pairwise fun a b => a.1.Before b.1) : faults.Nodup := by
    apply ordered.imp
    rintro a b before rfl
    exact before.asymm before
  have perm : faults.Perm others := by
    apply (List.perm_ext_iff_of_nodup (nodup ordered) (nodup ordered')).2
    rintro ⟨spot, violation⟩
    rw [members, members']
  -- The order is asymmetric, so that only one list of these members keeps it.
  have same : faults = others := by
    refine List.Perm.eq_of_pairwise ?_ ordered ordered' perm
    intro a b _ _ before after
    exact absurd after before.asymm
  rw [same]

end Reports
end DocSearch
