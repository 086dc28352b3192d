import DocSearch.Proofs.Namespace.Reference

/- References laid over namespaces. Of the result's components, those from the first one of the
reference on are the reference's own, and those outside it are the base's. It follows that
references can be laid over one another in any grouping. -/
namespace DocSearch

theorem Kind.depth_injective : Function.Injective Kind.depth := by
  intro a b same
  cases a <;> cases b <;> simp_all [Kind.depth]

namespace Namespace
variable {a b c ns : Namespace} {kind first : Kind}

theorem SameAt.refl (ns : Namespace) (kind : Kind) : ns.SameAt ns kind := by
  cases kind <;> exact Eq.refl _

theorem SameAt.symm (same : a.SameAt b kind) : b.SameAt a kind := by
  cases kind <;> exact Eq.symm same

theorem SameAt.trans (first : a.SameAt b kind) (second : b.SameAt c kind) : a.SameAt c kind := by
  cases kind <;> exact Eq.trans first second

theorem SameAt.has_eq (same : a.SameAt b kind) : a.has kind = b.has kind := by
  cases kind <;> simp_all [SameAt, has]

theorem sameAt_of_absent (without : a.has kind = false) (alike : b.has kind = false) :
    a.SameAt b kind := by
  cases kind <;> simp_all [SameAt, has]

theorem eq_of_sameAt (same : ∀ kind, a.SameAt b kind) : a = b := by
  obtain ⟨conf, sections, setting, value⟩ := a
  have ofConf := same .conf
  have ofSections := same .section
  have ofSetting := same .setting
  have ofValue := same .value
  simp only [SameAt] at ofConf ofSections ofSetting ofValue
  subst ofConf ofSections ofSetting ofValue
  rfl

theorem mem_populated : kind ∈ ns.populated ↔ ns.has kind = true := by
  rw [populated, List.mem_filter, and_iff_right]
  cases kind <;> decide

theorem populated_inward : ns.populated.Pairwise fun a b => a.depth < b.depth := by
  have all : Kind.all.Pairwise fun a b => a.depth < b.depth := by decide
  exact all.filter ns.has

theorem first_populated (head : ns.populated.head? = some first) :
    ns.has first = true ∧ ∀ kind, ns.has kind = true → first.depth ≤ kind.depth := by
  obtain ⟨later, split⟩ := List.head?_eq_some_iff.1 head
  constructor
  · exact mem_populated.1 (by simp [split])
  · intro kind present
    have member := mem_populated.2 present
    have order := split ▸ ns.populated_inward
    rw [split, List.mem_cons] at member
    rcases member with rfl | member
    · exact Nat.le_refl _
    · exact Nat.le_of_lt ((List.pairwise_cons.1 order).1 kind member)

theorem last_populated (last : ns.kind? = some kind) :
    ns.has kind = true ∧ ∀ outer, ns.has outer = true → outer.depth ≤ kind.depth := by
  obtain ⟨earlier, split⟩ := List.getLast?_eq_some_iff.1 last
  constructor
  · exact mem_populated.1 (by simp [split])
  · intro outer present
    have member := mem_populated.2 present
    have order := split ▸ ns.populated_inward
    rw [split, List.mem_append, List.mem_singleton] at member
    rcases member with member | rfl
    · exact Nat.le_of_lt ((List.pairwise_append.1 order).2.2 outer member kind (by simp))
    · exact Nat.le_refl _

theorem kind?_eq_some : ns.kind? = some kind ↔
    ns.has kind = true ∧ ∀ outer, ns.has outer = true → outer.depth ≤ kind.depth := by
  constructor
  · exact last_populated
  · rintro ⟨present, deepest⟩
    have filled : ns.populated ≠ [] := List.ne_nil_of_mem (mem_populated.2 present)
    have isLast : ns.kind? = some (ns.populated.getLast filled) :=
      List.getLast?_eq_some_getLast filled
    obtain ⟨presentLast, deepestLast⟩ := last_populated isLast
    have same := Nat.le_antisymm (deepest _ presentLast) (deepestLast kind present)
    rw [isLast, Kind.depth_injective same]

/-- The namespace has a component of the kind or of one outside it. -/
def Covers (ns : Namespace) (kind : Kind) : Prop :=
  ∃ outer : Kind, outer.depth ≤ kind.depth ∧ ns.has outer = true

theorem relativeTo_own (head : a.populated.head? = some first) (inner : first.depth ≤ kind.depth) :
    (a.relativeTo b).SameAt a kind := by
  rw [relativeTo, head]
  cases first <;> cases kind <;> simp_all [SameAt, Kind.depth]

theorem relativeTo_base (head : a.populated.head? = some first) (outer : kind.depth < first.depth) :
    (a.relativeTo b).SameAt b kind := by
  rw [relativeTo, head]
  cases first <;> cases kind <;> simp_all [SameAt, Kind.depth]

theorem relativeTo_of_covers (covers : a.Covers kind) : (a.relativeTo b).SameAt a kind := by
  obtain ⟨outer, above, present⟩ := covers
  cases head : a.populated.head? with
  | none =>
    have member := mem_populated.2 present
    rw [List.head?_eq_none_iff.1 head] at member
    cases member
  | some first =>
    have least := (first_populated head).2 outer present
    exact relativeTo_own head (Nat.le_trans least above)

theorem relativeTo_of_not_covers (bare : ¬ a.Covers kind) : (a.relativeTo b).SameAt b kind := by
  cases head : a.populated.head? with
  | none =>
    rw [relativeTo, head]
    exact SameAt.refl b kind
  | some first =>
    have present := (first_populated head).1
    apply relativeTo_base head
    by_contra inner
    exact bare ⟨first, Nat.le_of_not_lt inner, present⟩

theorem Covers.inward {outer : Kind} (covers : a.Covers outer) (above : outer.depth ≤ kind.depth) :
    a.Covers kind := by
  obtain ⟨outermost, further, present⟩ := covers
  exact ⟨outermost, Nat.le_trans further above, present⟩

theorem covers_of_has (present : a.has kind = true) : a.Covers kind :=
  ⟨kind, Nat.le_refl _, present⟩

theorem Covers.relativeTo (covers : a.Covers kind) : (a.relativeTo b).Covers kind := by
  obtain ⟨outer, above, present⟩ := covers
  have own : (a.relativeTo b).SameAt a outer := relativeTo_of_covers (covers_of_has present)
  exact ⟨outer, above, own.has_eq ▸ present⟩

theorem covers_relativeTo : (a.relativeTo b).Covers kind ↔ a.Covers kind ∨ b.Covers kind := by
  constructor
  · rintro ⟨outer, above, present⟩
    by_cases own : a.Covers outer
    · exact Or.inl (own.inward above)
    · rw [(relativeTo_of_not_covers own).has_eq] at present
      exact Or.inr ⟨outer, above, present⟩
  · rintro (own | ⟨outer, above, present⟩)
    · exact own.relativeTo
    · by_cases own : a.Covers outer
      · exact (own.inward above).relativeTo
      · rw [← (relativeTo_of_not_covers own).has_eq] at present
        exact ⟨outer, above, present⟩

theorem relativeTo_assoc (a b c : Namespace) :
    a.relativeTo (b.relativeTo c) = (a.relativeTo b).relativeTo c := by
  apply eq_of_sameAt
  intro kind
  by_cases own : a.Covers kind
  · have left : (a.relativeTo (b.relativeTo c)).SameAt a kind := relativeTo_of_covers own
    have right : ((a.relativeTo b).relativeTo c).SameAt (a.relativeTo b) kind :=
      relativeTo_of_covers (covers_relativeTo.2 (Or.inl own))
    exact left.trans (right.trans (relativeTo_of_covers own)).symm
  · have left : (a.relativeTo (b.relativeTo c)).SameAt (b.relativeTo c) kind :=
      relativeTo_of_not_covers own
    by_cases middle : b.Covers kind
    · have right : ((a.relativeTo b).relativeTo c).SameAt (a.relativeTo b) kind :=
        relativeTo_of_covers (covers_relativeTo.2 (Or.inr middle))
      exact (left.trans (relativeTo_of_covers middle)).trans
        (right.trans (relativeTo_of_not_covers own)).symm
    · have neither : ¬ (a.relativeTo b).Covers kind := by
        rw [covers_relativeTo]
        exact not_or.2 ⟨own, middle⟩
      exact (left.trans (relativeTo_of_not_covers middle)).trans
        (relativeTo_of_not_covers neither).symm

theorem empty_relativeTo (a : Namespace) : empty.relativeTo a = a := rfl

theorem relativeTo_empty (a : Namespace) : a.relativeTo empty = a := by
  apply eq_of_sameAt
  intro kind
  by_cases own : a.Covers kind
  · exact relativeTo_of_covers own
  · have absent : a.has kind = false :=
      Bool.eq_false_iff.2 fun present => own (covers_of_has present)
    have unfilled : empty.has kind = false := by cases kind <;> rfl
    exact (relativeTo_of_not_covers own).trans (sameAt_of_absent unfilled absent)

theorem relativeTo_self (a : Namespace) : a.relativeTo a = a := by
  apply eq_of_sameAt
  intro kind
  by_cases own : a.Covers kind
  · exact relativeTo_of_covers own
  · exact relativeTo_of_not_covers own

theorem kind?_relativeTo (filled : a.isEmpty = false) : (a.relativeTo b).kind? = a.kind? := by
  have filled : a.populated ≠ [] := by simpa [isEmpty] using filled
  obtain ⟨kind, deepest⟩ : ∃ kind, a.kind? = some kind := ⟨_, List.getLast?_eq_some_getLast filled⟩
  obtain ⟨present, inmost⟩ := kind?_eq_some.1 deepest
  rw [deepest, kind?_eq_some]
  constructor
  · rw [(relativeTo_of_covers (covers_of_has present)).has_eq, present]
  · intro other presentOther
    by_cases own : a.Covers other
    · rw [(relativeTo_of_covers own).has_eq] at presentOther
      exact inmost other presentOther
    · by_contra deeper
      exact own ⟨kind, Nat.le_of_not_le deeper, present⟩

theorem relativeTo_of_conf (named : a.conf.isSome = true) : a.relativeTo b = a := by
  apply eq_of_sameAt
  intro kind
  have covers : a.Covers kind := ⟨.conf, Nat.zero_le _, named⟩
  exact relativeTo_of_covers covers

/-- References can be laid over one another in any grouping; laying one over its own base again, or
over nothing, changes nothing. A reference that is not empty decides the kind that is named, and one
that names the configuration file decides all. -/
theorem overlay_laws (a b c : Namespace) :
    a.relativeTo (b.relativeTo c) = (a.relativeTo b).relativeTo c ∧
      empty.relativeTo a = a ∧ a.relativeTo empty = a ∧
      (a.relativeTo b).relativeTo b = a.relativeTo b ∧
      (a.isEmpty = false → (a.relativeTo b).kind? = a.kind?) ∧
      (a.conf.isSome = true → a.relativeTo b = a) := by
  have again : (a.relativeTo b).relativeTo b = a.relativeTo b := by
    rw [← relativeTo_assoc, relativeTo_self]
  exact ⟨relativeTo_assoc a b c, empty_relativeTo a, relativeTo_empty a, again, kind?_relativeTo,
    relativeTo_of_conf⟩

theorem overlay_laws_section :
    let a : Namespace := ⟨none, ["d"], none, none⟩
    let b : Namespace := ⟨some "x", ["a", "b"], some "c", some "e"⟩
    a.isEmpty = false ∧ (a.relativeTo b).kind? = some .section ∧
      b.conf.isSome = true ∧ b.relativeTo a = b := by
  intro a b
  obtain ⟨_, _, _, _, kind, _⟩ := overlay_laws a b empty
  obtain ⟨_, _, _, _, _, whole⟩ := overlay_laws b a empty
  exact ⟨rfl, kind rfl, rfl, whole rfl⟩

end Namespace
end DocSearch
