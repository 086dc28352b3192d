import DocSearch.Stem.Regions

/- Rules that take endings off words, as a relation: of a list of rules only those with the longest
ending of a word count, and of these one whose condition holds of the stem. -/
namespace DocSearch.Stem

theorem before?_eq_some {ending : String} {word stem : List Char} :
    before? ending word = some stem ↔ word = stem ++ ending.toList := by
  unfold before?
  dsimp only
  constructor
  · intro found
    split at found
    · rename_i ends
      obtain ⟨front, rfl⟩ := List.isSuffixOf_iff_suffix.1 ends
      simp only [List.length_append, Nat.add_sub_cancel, List.take_left', Option.some.injEq] at found
      rw [found]
    · cases found
  · rintro rfl
    rw [if_pos (List.isSuffixOf_iff_suffix.2 (List.suffix_append _ _))]
    simp

theorem before?_eq_none {ending : String} {word : List Char} :
    before? ending word = none ↔ ¬ ending.toList <:+ word := by
  rw [Option.eq_none_iff_forall_ne_some]
  constructor
  · rintro none ⟨stem, same⟩
    exact none stem (before?_eq_some.2 same.symm)
  · intro none stem found
    exact none ⟨stem, (before?_eq_some.1 found).symm⟩

theorem endsIn_iff {ending : String} {word : List Char} :
    endsIn ending word = true ↔ ending.toList <:+ word :=
  List.isSuffixOf_iff_suffix

/-- What a search for the longest ending has to know of the endings tried so far. -/
def Longest (word : List Char) (tried : List String) : Option (String × List Char) → Prop
  | none => ∀ other ∈ tried, ¬ other.toList <:+ word
  | some (ending, stem) => ending ∈ tried ∧ word = stem ++ ending.toList ∧
      ∀ other ∈ tried, other.toList <:+ word → other.toList.length ≤ ending.toList.length

def longer (word : List Char) (best : Option (String × List Char)) (ending : String) :
    Option (String × List Char) :=
  match before? ending word, best with
  | none, _ => best
  | some stem, none => some (ending, stem)
  | some stem, some (_, shortest) =>
    if stem.length < shortest.length then some (ending, stem) else best

theorem Longest.longer {word : List Char} {tried : List String}
    {best : Option (String × List Char)} (longest : Longest word tried best) (ending : String) :
    Longest word (tried ++ [ending]) (longer word best ending) := by
  unfold Stem.longer
  cases found : before? ending word with
  | none =>
    have none := before?_eq_none.1 found
    cases best with
    | none => exact List.forall_mem_append.2 ⟨longest, by simpa using none⟩
    | some best =>
      obtain ⟨member, splits, most⟩ := longest
      refine ⟨List.mem_append_left _ member, splits, List.forall_mem_append.2 ⟨most, ?_⟩⟩
      simpa using fun ends => absurd ends none
  | some stem =>
    have splitsNew := before?_eq_some.1 found
    cases best with
    | none =>
      refine ⟨by simp, splitsNew, List.forall_mem_append.2 ⟨?_, by simp⟩⟩
      exact fun other member ends => absurd ends (longest other member)
    | some best =>
      obtain ⟨member, splits, most⟩ := longest
      -- The longer ending of a word is the one that leaves the shorter stem.
      have sizes := congrArg List.length (splits.symm.trans splitsNew)
      rw [List.length_append, List.length_append] at sizes
      dsimp only
      split
      · refine ⟨by simp, splitsNew, List.forall_mem_append.2 ⟨?_, by simp⟩⟩
        intro other old ends
        have := most other old ends
        omega
      · refine ⟨List.mem_append_left _ member, splits, List.forall_mem_append.2 ⟨most, ?_⟩⟩
        intro other new _
        rw [List.mem_singleton.1 new]
        omega

theorem longest?_longest (endings : List String) (word : List Char) :
    Longest word endings (longest? endings word) := by
  have run (tried : List String) (best : Option (String × List Char))
      (longest : Longest word tried best) :
      Longest word (tried ++ endings) (endings.foldl (longer word) best) := by
    induction endings generalizing tried best with
    | nil => simpa using longest
    | cons ending endings ih => simpa using ih (tried ++ [ending]) _ (longest.longer ending)
  exact run [] none (by simp [Longest])

/-- A rule takes an ending off a word, if a condition holds of the stem before it. -/
structure Rule where
  ending : String
  condition : List Char → Prop
  /-- What the word then becomes, by the stem. -/
  becomes : List Char → List Char → Prop

namespace Rule

def replacing (ending replacement : String) (condition : List Char → Prop) : Rule :=
  ⟨ending, condition, fun stem result => result = stem ++ replacement.toList⟩

/-- A rule counts for a word that has its ending, unless another rule has a longer one. -/
structure Counts (rules : List Rule) (word : List Char) (rule : Rule) (stem : List Char) : Prop where
  listed : rule ∈ rules
  splits : word = stem ++ rule.ending.toList
  longest : ∀ other ∈ rules, other.ending.toList <:+ word →
    other.ending.toList.length ≤ rule.ending.toList.length

/-- What a list of rules makes of a word: a rule that counts applies if its condition holds. -/
inductive Applied (rules : List Rule) (word : List Char) : List Char → Prop
  | fires {rule : Rule} {stem result : List Char} (counts : Counts rules word rule stem)
    (holds : rule.condition stem) (becomes : rule.becomes stem result) : Applied rules word result
  | stays (fails : ∀ rule stem, Counts rules word rule stem → ¬ rule.condition stem) :
    Applied rules word word

variable {rules : List Rule} {word result stem : List Char} {rule : Rule}

theorem applied_of_none (none : ∀ rule ∈ rules, ¬ rule.ending.toList <:+ word) :
    Applied rules word result ↔ result = word := by
  constructor
  · intro applied
    cases applied with
    | fires counts => exact absurd ⟨_, counts.splits.symm⟩ (none _ counts.listed)
    | stays => rfl
  · rintro rfl
    exact .stays fun rule stem counts => absurd ⟨_, counts.splits.symm⟩ (none _ counts.listed)

/-- All rules that count for a word have the same ending and see the same stem. -/
theorem Counts.unique {other : Rule} {front : List Char} (counts : Counts rules word rule stem)
    (countsToo : Counts rules word other front) : other.ending = rule.ending ∧ front = stem := by
  have size : other.ending.toList.length = rule.ending.toList.length :=
    Nat.le_antisymm (counts.longest _ countsToo.listed ⟨_, countsToo.splits.symm⟩)
      (countsToo.longest _ counts.listed ⟨_, counts.splits.symm⟩)
  obtain ⟨stems, endings⟩ :=
    List.append_inj' (countsToo.splits.symm.trans counts.splits) size
  exact ⟨String.toList_inj.1 endings, stems⟩

theorem applied_of_counts (counts : Counts rules word rule stem) :
    Applied rules word result ↔
      (∃ other ∈ rules, other.ending = rule.ending ∧ other.condition stem ∧
        other.becomes stem result) ∨
      result = word ∧ ∀ other ∈ rules, other.ending = rule.ending → ¬ other.condition stem := by
  have counted {other : Rule} (listed : other ∈ rules) (same : other.ending = rule.ending) :
      Counts rules word other stem :=
    ⟨listed, same ▸ counts.splits, same ▸ counts.longest⟩
  constructor
  · intro applied
    cases applied with
    | @fires other front _ countsToo holds becomes =>
      obtain ⟨same, rfl⟩ := counts.unique countsToo
      exact Or.inl ⟨other, countsToo.listed, same, holds, becomes⟩
    | stays fails =>
      exact Or.inr ⟨rfl, fun other listed same => fails other stem (counted listed same)⟩
  · rintro (⟨other, listed, same, holds, becomes⟩ | ⟨rfl, fails⟩)
    · exact .fires (counted listed same) holds becomes
    · refine .stays fun other front countsToo => ?_
      obtain ⟨same, rfl⟩ := counts.unique countsToo
      exact fails other countsToo.listed same

theorem applied_of_only (counts : Counts rules word rule stem)
    (only : ∀ other ∈ rules, other.ending = rule.ending → other = rule) :
    Applied rules word result ↔
      rule.condition stem ∧ rule.becomes stem result ∨ ¬ rule.condition stem ∧ result = word := by
  rw [applied_of_counts counts]
  constructor
  · rintro (⟨other, listed, same, holds, becomes⟩ | ⟨stays, fails⟩)
    · cases only other listed same
      exact Or.inl ⟨holds, becomes⟩
    · exact Or.inr ⟨fails rule counts.listed rfl, stays⟩
  · rintro (⟨holds, becomes⟩ | ⟨fails, stays⟩)
    · exact Or.inl ⟨rule, counts.listed, rfl, holds, becomes⟩
    · refine Or.inr ⟨stays, fun other listed same => ?_⟩
      cases only other listed same
      exact fails

theorem Counts.of_longer (listed : rule ∈ rules) (splits : word = stem ++ rule.ending.toList)
    (none : ∀ other ∈ rules, rule.ending.toList.length < other.ending.toList.length →
      ¬ other.ending.toList <:+ word) : Counts rules word rule stem :=
  ⟨listed, splits, fun other member ends => Nat.not_lt.1 fun more => none other member more ends⟩

theorem fires_or_stays {holds condition : Prop} [Decidable holds] (same : holds ↔ condition)
    {made : List Char} : condition ∧ result = made ∨ ¬ condition ∧ result = word ↔
      (if holds then made else word) = result := by
  rw [← same]
  split
  · rename_i yes
    simp [yes, eq_comm]
  · rename_i no
    simp [no, eq_comm]

theorem applied_replacing {ending replacement : String} {condition : List Char → Prop}
    (counts : Counts rules word (replacing ending replacement condition) stem)
    (only : ∀ other ∈ rules, other.ending = ending → other = replacing ending replacement condition)
    {holds : Prop} [Decidable holds] (same : holds ↔ condition stem) :
    Applied rules word result ↔
      (if holds then stem ++ replacement.toList else word) = result := by
  rw [applied_of_only counts only]
  exact fires_or_stays same

theorem applied_map {rule : String → Rule} (named : ∀ ending, (rule ending).ending = ending)
    (endings : List String) : Applied (endings.map rule) word result ↔
      match longest? endings word with
      | none => result = word
      | some (ending, stem) => (rule ending).condition stem ∧ (rule ending).becomes stem result ∨
          ¬ (rule ending).condition stem ∧ result = word := by
  have longest := longest?_longest endings word
  cases found : longest? endings word with
  | none =>
    rw [found] at longest
    apply applied_of_none
    intro other listed
    obtain ⟨ending, member, rfl⟩ := List.mem_map.1 listed
    rw [named]
    exact longest ending member
  | some best =>
    obtain ⟨ending, stem⟩ := best
    rw [found] at longest
    obtain ⟨member, splits, most⟩ := longest
    have counts : Counts (endings.map rule) word (rule ending) stem := by
      refine ⟨List.mem_map_of_mem member, by rwa [named], fun other listed ends => ?_⟩
      obtain ⟨shorter, inside, rfl⟩ := List.mem_map.1 listed
      rw [named] at ends ⊢
      rw [named]
      exact most shorter inside ends
    apply applied_of_only counts
    intro other listed same
    obtain ⟨twin, _, rfl⟩ := List.mem_map.1 listed
    rw [named, named] at same
    rw [same]

end Rule
end DocSearch.Stem
