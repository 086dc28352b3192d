import DocSearch.Proofs.Literal.Writing

/- The order in which the legacy dialect writes the members of an object. Members are ordered by
their whole text, but no key with its colon begins another, so that two members always differ in
their keys first and the values have no say. -/
namespace DocSearch.Literal

def keyFront (key : String) : List Char := renderKey .legacy key ++ [':']

/-- The first place where two texts differ, and that it lies inside both. -/
structure PartAt (a b : List Char) (c d : Char) : Prop where
  differ : c ≠ d
  common : ∃ before s t, a = before ++ c :: s ∧ b = before ++ d :: t

theorem PartAt.cons {a b : List Char} {c d : Char} (part : PartAt a b c d) (x : Char) :
    PartAt (x :: a) (x :: b) c d := by
  obtain ⟨differ, before, s, t, rfl, rfl⟩ := part
  exact ⟨differ, x :: before, s, t, rfl, rfl⟩

/-- Two texts of which neither begins the other differ inside both. -/
theorem exists_partAt {a b : List Char} (notBefore : ¬ a <+: b) (notAfter : ¬ b <+: a) :
    ∃ c d, PartAt a b c d := by
  induction a generalizing b with
  | nil => exact absurd List.nil_prefix notBefore
  | cons c a ih =>
    cases b with
    | nil => exact absurd List.nil_prefix notAfter
    | cons d b =>
      by_cases same : c = d
      · subst same
        rw [List.cons_prefix_cons] at notBefore notAfter
        obtain ⟨c', d', part⟩ := ih (fun front => notBefore ⟨rfl, front⟩)
          (fun front => notAfter ⟨rfl, front⟩)
        exact ⟨c', d', part.cons c⟩
      · exact ⟨c, d, same, [], a, b, rfl, rfl⟩

theorem PartAt.lt_iff {a b : List Char} {c d : Char} (part : PartAt a b c d) (s t : List Char) :
    a ++ s < b ++ t ↔ c < d := by
  obtain ⟨differ, before, x, y, rfl, rfl⟩ := part
  induction before with
  | nil => simp [List.cons_lt_cons_iff, differ]
  | cons first before ih =>
    simp only [List.cons_append, List.append_assoc, List.cons_lt_cons_iff, Char.lt_irrefl, true_and,
      false_or] at ih ⊢
    exact ih

theorem PartAt.ne {a b : List Char} {c d : Char} (part : PartAt a b c d) (s t : List Char) :
    a ++ s ≠ b ++ t := by
  obtain ⟨differ, before, x, y, rfl, rfl⟩ := part
  intro same
  simp only [List.append_assoc, List.append_cancel_left_eq] at same
  exact differ (List.cons.inj same).1

/-- A key is read off the front of a text, and what stands behind its colon is not looked at. -/
theorem takeKey_keyFront (key : String) (rest : List Char) :
    takeKey (keyFront key ++ rest) = .ok (key.toList, isBareKey key, ':' :: rest) := by
  have read := takeKey_complete (renderKey_spells .legacy key) (spaces_nil.nameEnd rest)
  simpa [keyFront] using read

theorem keyFront_append_inj {k l : String} {s t : List Char}
    (same : keyFront k ++ s = keyFront l ++ t) : k = l := by
  have readK := takeKey_keyFront k s
  rw [same, takeKey_keyFront l t] at readK
  have keys := congrArg Prod.fst (Except.ok.inj readK)
  exact (String.toList_inj.1 keys).symm

theorem keyFront_apart {k l : String} (different : k ≠ l) : ¬ keyFront k <+: keyFront l := by
  intro front
  obtain ⟨rest, same⟩ := front
  exact different (keyFront_append_inj (same.trans (List.append_nil _).symm))

theorem exists_partAt_keyFront {k l : String} (different : k ≠ l) :
    ∃ c d, PartAt (keyFront k) (keyFront l) c d :=
  exists_partAt (keyFront_apart different) (keyFront_apart (Ne.symm different))

theorem renderMember_legacy (member : String × Value) :
    renderMember .legacy member = keyFront member.1 ++ render .legacy member.2 := by
  simp [renderMember, keyFront]

theorem renderMember_lt_iff {m n : String × Value} (different : m.1 ≠ n.1) :
    renderMember .legacy m < renderMember .legacy n ↔ keyFront m.1 < keyFront n.1 := by
  obtain ⟨c, d, part⟩ := exists_partAt_keyFront different
  rw [renderMember_legacy, renderMember_legacy, part.lt_iff]
  simpa using (part.lt_iff [] []).symm

def keyOrder (keys : List String) : List String :=
  keys.mergeSort fun k l => !decide (keyFront l < keyFront k)

theorem exists_listedAs {members : List (String × Value)}
    (distinct : (members.map Prod.fst).Nodup) :
    ∃ written, ListedAs .legacy members written ∧
      written.map Prod.fst = keyOrder (members.map Prod.fst) := by
  refine ⟨members.mergeSort fun m n => !decide (keyFront n.1 < keyFront m.1),
    ⟨List.mergeSort_perm _ _, ?_⟩, ?_⟩
  · rw [render, renderMembers_eq, arrange, List.map_mergeSort]
    intro m inM n inN
    by_cases same : m.1 = n.1
    · have equal : m = n := List.inj_on_of_nodup_map distinct inM inN same
      simp only [equal, List.lt_irrefl]
    · simp [renderMember_lt_iff (Ne.symm same)]
  · exact List.map_mergeSort fun _ _ _ _ => rfl

theorem commaSeparated_cons (part : List Char) (parts : List (List Char)) :
    ∃ rest, commaSeparated (part :: parts) = part ++ rest := by
  cases parts with
  | nil => exact ⟨[], (List.append_nil part).symm⟩
  | cons next parts => exact ⟨_, rfl⟩

/-- The order of members can be read off their text: the first key shows there, it belongs to one
member only, and what follows the text of this member is the text of the others. -/
theorem eq_of_commaSeparated {members left right : List (String × Value)} {s t : List Char}
    (distinct : (members.map Prod.fst).Nodup) (inLeft : ∀ m ∈ left, m ∈ members)
    (inRight : ∀ m ∈ right, m ∈ members) (lengths : left.length = right.length)
    (same : commaSeparated (left.map (renderMember .legacy)) ++ s =
      commaSeparated (right.map (renderMember .legacy)) ++ t) : left = right := by
  induction left generalizing right with
  | nil => exact (List.length_eq_zero_iff.1 lengths.symm).symm
  | cons m left ih =>
    cases right with
    | nil => cases lengths
    | cons n right =>
      obtain ⟨mInMembers, leftInMembers⟩ := List.forall_mem_cons.1 inLeft
      obtain ⟨nInMembers, rightInMembers⟩ := List.forall_mem_cons.1 inRight
      have first : m = n := by
        obtain ⟨afterM, textM⟩ := commaSeparated_cons (renderMember .legacy m)
          (left.map (renderMember .legacy))
        obtain ⟨afterN, textN⟩ := commaSeparated_cons (renderMember .legacy n)
          (right.map (renderMember .legacy))
        rw [List.map_cons, List.map_cons, textM, textN, renderMember_legacy, renderMember_legacy]
          at same
        simp only [List.append_assoc] at same
        exact List.inj_on_of_nodup_map distinct mInMembers nInMembers (keyFront_append_inj same)
      subst first
      congr 1
      cases left with
      | nil => exact (List.length_eq_zero_iff.1 (Nat.succ.inj lengths).symm).symm
      | cons m' left =>
        cases right with
        | nil => cases lengths
        | cons n' right =>
          apply ih leftInMembers rightInMembers (Nat.succ.inj lengths)
          simpa [commaSeparated] using same

theorem ListedAs.unique {members written other : List (String × Value)}
    (distinct : (members.map Prod.fst).Nodup) (listed : ListedAs .legacy members written)
    (again : ListedAs .legacy members other) : written = other := by
  obtain ⟨perm, shown⟩ := listed
  obtain ⟨permOther, shownOther⟩ := again
  have same := (List.cons.inj (shown.symm.trans shownOther)).2
  exact eq_of_commaSeparated distinct (fun m => perm.mem_iff.1) (fun m => permOther.mem_iff.1)
    (perm.trans permOther.symm).length_eq same

theorem ListedAs.keys {members written : List (String × Value)}
    (distinct : (members.map Prod.fst).Nodup) (listed : ListedAs .legacy members written) :
    written.map Prod.fst = keyOrder (members.map Prod.fst) := by
  obtain ⟨sorted, listedSorted, order⟩ := exists_listedAs distinct
  rw [listed.unique distinct listedSorted, order]

/-- Two objects with the same keys are written with their keys in the same order, whatever the
values. No member reads as another one does, and which of two comes first is settled by a character
of their keys or by the colon behind one. -/
theorem legacy_order_by_keys {a b : List (String × Value)} (ascendingA : Ascending a)
    (ascendingB : Ascending b) (same : ∀ key, key ∈ a.map Prod.fst ↔ key ∈ b.map Prod.fst) :
    (∃ writtenA writtenB, ListedAs .legacy a writtenA ∧ ListedAs .legacy b writtenB) ∧
    (∀ writtenA writtenB, ListedAs .legacy a writtenA → ListedAs .legacy b writtenB →
      writtenA.map Prod.fst = writtenB.map Prod.fst) ∧
    ∀ m ∈ a, ∀ n ∈ a, m ≠ n → ∃ c d, PartAt (keyFront m.1) (keyFront n.1) c d ∧
      renderMember .legacy m ≠ renderMember .legacy n ∧
      (renderMember .legacy m < renderMember .legacy n ↔ c < d) := by
  refine ⟨?_, ?_, ?_⟩
  · obtain ⟨writtenA, listedA⟩ := exists_listed .legacy a
    obtain ⟨writtenB, listedB⟩ := exists_listed .legacy b
    exact ⟨writtenA, writtenB, listedA, listedB⟩
  · intro writtenA writtenB listedA listedB
    calc
      writtenA.map Prod.fst = keyOrder (a.map Prod.fst) := listedA.keys ascendingA.keys_nodup
      _ = keyOrder (b.map Prod.fst) := by rw [ascendingA.keys_eq ascendingB same]
      _ = writtenB.map Prod.fst := (listedB.keys ascendingB.keys_nodup).symm
  · intro m inA n inB different
    have keys : m.1 ≠ n.1 := fun same =>
      different (List.inj_on_of_nodup_map ascendingA.keys_nodup inA inB same)
    obtain ⟨c, d, part⟩ := exists_partAt_keyFront keys
    rw [renderMember_legacy, renderMember_legacy]
    exact ⟨c, d, part, part.ne _ _, part.lt_iff _ _⟩

theorem legacy_order_by_keys_digit :
    (∃ writtenA writtenB,
      ListedAs .legacy [("a", .null), ("a1", .bool true)] writtenA ∧
      ListedAs .legacy [("a", .string "x"), ("a1", .null)] writtenB) ∧
    (∀ writtenA writtenB,
      ListedAs .legacy [("a", .null), ("a1", .bool true)] writtenA →
      ListedAs .legacy [("a", .string "x"), ("a1", .null)] writtenB →
      writtenA.map Prod.fst = writtenB.map Prod.fst) ∧
    ∀ m ∈ [("a", Value.null), ("a1", .bool true)], ∀ n ∈ [("a", Value.null), ("a1", .bool true)],
      m ≠ n → ∃ c d, PartAt (keyFront m.1) (keyFront n.1) c d ∧
        renderMember .legacy m ≠ renderMember .legacy n ∧
        (renderMember .legacy m < renderMember .legacy n ↔ c < d) :=
  legacy_order_by_keys (by decide) (by decide) (by simp)

end DocSearch.Literal
