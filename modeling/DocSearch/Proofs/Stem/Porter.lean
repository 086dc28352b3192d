import DocSearch.Proofs.Stem.Letters
import DocSearch.Proofs.Stem.Rules

/- The English stemmer is the algorithm that was published for it: eight lists of rules, one after the
other, with conditions on the measure, the vowels and the last letters of a stem. -/
namespace DocSearch.Stem

namespace Published
open Rule

def Always (_ : List Char) : Prop := True

def LongerThan (n : Nat) (stem : List Char) : Prop := n < turns stem

def EndsWith (c : Char) (stem : List Char) : Prop := [c] <:+ stem

/-- The last letter goes. -/
def LosesLast (stem result : List Char) : Prop := result = stem.dropLast

def step1a : List Rule :=
  [replacing "sses" "ss" Always, replacing "ies" "i" Always, replacing "ss" "ss" Always,
   replacing "s" "" Always]

def EndsTwice (stem : List Char) : Prop :=
  EndsDouble stem ∧ ¬ (EndsWith 'l' stem ∨ EndsWith 's' stem ∨ EndsWith 'z' stem)

def IsShort (stem : List Char) : Prop := turns stem = 1 ∧ EndsShort stem

def mending : List Rule :=
  [replacing "at" "ate" Always, replacing "bl" "ble" Always, replacing "iz" "ize" Always,
   ⟨"", EndsTwice, LosesLast⟩, replacing "" "e" IsShort]

def step1b : List Rule :=
  [replacing "eed" "ee" (LongerThan 0), ⟨"ed", HasVowel, Applied mending⟩,
   ⟨"ing", HasVowel, Applied mending⟩]

def step1c : List Rule := [replacing "y" "i" HasVowel]

def step2 : List Rule :=
  [("ational", "ate"), ("tional", "tion"), ("enci", "ence"), ("anci", "ance"), ("izer", "ize"),
   ("abli", "able"), ("alli", "al"), ("entli", "ent"), ("eli", "e"), ("ousli", "ous"),
   ("ization", "ize"), ("ation", "ate"), ("ator", "ate"), ("alism", "al"), ("iveness", "ive"),
   ("fulness", "ful"), ("ousness", "ous"), ("aliti", "al"), ("iviti", "ive"), ("biliti", "ble")].map
    fun (ending, replacement) => replacing ending replacement (LongerThan 0)

def step3 : List Rule :=
  [("icate", "ic"), ("ative", ""), ("alize", "al"), ("iciti", "ic"), ("ical", "ic"), ("ful", ""),
   ("ness", "")].map fun (ending, replacement) => replacing ending replacement (LongerThan 0)

def step4 : List Rule :=
  ["al", "ance", "ence", "er", "ic", "able", "ible", "ant", "ement", "ment", "ent", "ion", "ou",
   "ism", "ate", "iti", "ous", "ive", "ize"].map fun ending => replacing ending "" fun stem =>
    LongerThan 1 stem ∧ (ending = "ion" → EndsWith 's' stem ∨ EndsWith 't' stem)

def step5a : List Rule :=
  [replacing "e" "" (LongerThan 1), replacing "e" "" fun stem => turns stem = 1 ∧ ¬ EndsShort stem]

def step5b : List Rule :=
  [⟨"", fun stem => LongerThan 1 stem ∧ EndsDouble stem ∧ EndsWith 'l' stem, LosesLast⟩]

def steps : List (List Rule) := [step1a, step1b, step1c, step2, step3, step4, step5a, step5b]

/-- What becomes of a word step by step. -/
inductive InTurn : (steps : List (List Rule)) → (word result : List Char) → Prop
  | done (word : List Char) : InTurn [] word word
  | next {rules : List Rule} {steps : List (List Rule)} {word between result : List Char}
    (first : Applied rules word between) (rest : InTurn steps between result) :
    InTurn (rules :: steps) word result

/-- Words of one or two letters are their own stems. -/
def Stems (word result : List Char) : Prop :=
  if word.length < 3 then result = word else InTurn steps word result

end Published

namespace Porter
open Rule
variable {word result stem : List Char}

theorem longerThan_iff (n : Nat) (stem : List Char) :
    n < measure stem ↔ Published.LongerThan n stem := by
  rw [measure_eq, Published.LongerThan]

theorem step1a_iff : step1a word = result ↔ Applied Published.step1a word result := by
  unfold step1a
  cases sses : before? "sses" word with
  | some stem =>
    have counts : Counts Published.step1a word (replacing "sses" "ss" Published.Always) stem := by
      refine Counts.of_longer (by simp [Published.step1a]) (before?_eq_some.1 sses) ?_
      simp [Published.step1a, replacing]
    rw [applied_replacing counts (by simp [Published.step1a, replacing]) (Iff.refl True)]
    rfl
  | none =>
    have noSses := before?_eq_none.1 sses
    cases ies : before? "ies" word with
    | some stem =>
      have counts : Counts Published.step1a word (replacing "ies" "i" Published.Always) stem := by
        refine Counts.of_longer (by simp [Published.step1a]) (before?_eq_some.1 ies) ?_
        simpa [Published.step1a, replacing] using noSses
      rw [applied_replacing counts (by simp [Published.step1a, replacing]) (Iff.refl True)]
      rfl
    | none =>
      have noIes := before?_eq_none.1 ies
      by_cases ss : endsIn "ss" word = true
      · obtain ⟨stem, splits⟩ := endsIn_iff.1 ss
        have counts : Counts Published.step1a word (replacing "ss" "ss" Published.Always) stem := by
          refine Counts.of_longer (by simp [Published.step1a]) splits.symm ?_
          simpa [Published.step1a, replacing] using ⟨noSses, noIes⟩
        rw [applied_replacing counts (by simp [Published.step1a, replacing]) (Iff.refl True),
          if_pos trivial, splits, if_pos ss]
      · have noSs := mt endsIn_iff.2 ss
        dsimp only
        rw [if_neg ss]
        cases s : before? "s" word with
        | some stem =>
          have counts : Counts Published.step1a word (replacing "s" "" Published.Always) stem := by
            refine Counts.of_longer (by simp [Published.step1a]) (before?_eq_some.1 s) ?_
            simpa [Published.step1a, replacing] using ⟨noSses, noIes, noSs⟩
          rw [applied_replacing counts (by simp [Published.step1a, replacing]) (Iff.refl True)]
          simp
        | none =>
          have noS := before?_eq_none.1 s
          rw [applied_of_none (by simpa [Published.step1a, replacing] using ⟨noSses, noIes, noSs, noS⟩)]
          simp [eq_comm]

theorem endsIn_single (ending : String) (c : Char) (single : ending.toList = [c]) :
    endsIn ending word = true ↔ Published.EndsWith c word := by
  rw [endsIn_iff, single, Published.EndsWith]

theorem mend_completes (ending completed : String)
    (grown : completed.toList = ending.toList ++ ['e'])
    (listed : replacing ending completed Published.Always ∈ Published.mending)
    (two : ending.toList.length = 2)
    (only : ∀ other ∈ Published.mending, other.ending = ending →
      other = replacing ending completed Published.Always)
    (ends : endsIn ending word = true) :
    word ++ ['e'] = result ↔ Applied Published.mending word result := by
  obtain ⟨stem, splits⟩ := endsIn_iff.1 ends
  have counts : Counts Published.mending word (replacing ending completed Published.Always) stem := by
    refine Counts.of_longer listed splits.symm ?_
    simp [Published.mending, replacing, two]
  rw [applied_replacing counts only (Iff.refl True), if_pos trivial, grown, ← List.append_assoc,
    splits]

theorem mend_iff : mend word = result ↔ Applied Published.mending word result := by
  unfold mend
  split
  · rename_i ends
    rw [Bool.or_eq_true, Bool.or_eq_true] at ends
    rcases ends with (ends | ends) | ends
    · exact mend_completes "at" "ate" rfl (by simp [Published.mending]) rfl
        (by simp [Published.mending, replacing]) ends
    · exact mend_completes "bl" "ble" rfl (by simp [Published.mending]) rfl
        (by simp [Published.mending, replacing]) ends
    · exact mend_completes "iz" "ize" rfl (by simp [Published.mending]) rfl
        (by simp [Published.mending, replacing]) ends
  · rename_i ends
    simp only [Bool.or_eq_true, endsIn_iff, not_or] at ends
    obtain ⟨⟨noAt, noBl⟩, noIz⟩ := ends
    have counts : Counts Published.mending word (replacing "" "e" Published.IsShort) word := by
      refine Counts.of_longer (by simp [Published.mending]) (by simp [replacing]) ?_
      simpa [Published.mending, replacing] using ⟨noAt, noBl, noIz⟩
    have twice : (endsDouble word && !(endsIn "l" word || endsIn "s" word || endsIn "z" word)) =
        true ↔ Published.EndsTwice word := by
      rw [Bool.and_eq_true, endsDouble_iff, Bool.not_eq_true', ← Bool.not_eq_true, Bool.or_eq_true,
        Bool.or_eq_true, endsIn_single "l" 'l' rfl, endsIn_single "s" 's' rfl,
        endsIn_single "z" 'z' rfl, or_assoc, Published.EndsTwice]
    have short : (decide (measure word = 1) && endsShort word) = true ↔
        Published.IsShort word := by
      rw [Bool.and_eq_true, decide_eq_true_eq, measure_eq, endsShort_iff, Published.IsShort]
    have apart : Published.EndsTwice word → ¬ Published.IsShort word :=
      fun double both => double.1.not_short both.2
    -- Both rules without an ending count, and at most one of them applies.
    rw [applied_of_counts counts]
    simp only [Published.mending, replacing, List.mem_cons, List.not_mem_nil, or_false,
      exists_eq_or_imp, exists_eq_left, forall_eq_or_imp, forall_eq, true_and, true_imp_iff,
      Published.LosesLast]
    by_cases double : Published.EndsTwice word
    · rw [if_pos (twice.2 double)]
      simp [double, apart double, eq_comm (a := result)]
    · rw [if_neg (mt twice.1 double)]
      by_cases both : Published.IsShort word
      · rw [if_pos (short.2 both)]
        simp [double, both, eq_comm (a := result)]
      · rw [if_neg (mt short.1 both)]
        simp [double, both, eq_comm (a := result)]

theorem step1b_iff : step1b word = result ↔ Applied Published.step1b word result := by
  unfold step1b
  cases eed : before? "eed" word with
  | some stem =>
    have counts : Counts Published.step1b word
        (replacing "eed" "ee" (Published.LongerThan 0)) stem := by
      refine Counts.of_longer (by simp [Published.step1b]) (before?_eq_some.1 eed) ?_
      simp [Published.step1b, replacing]
    rw [applied_replacing counts (by simp [Published.step1b, replacing]) (longerThan_iff 0 stem)]
  | none =>
    have noEed := before?_eq_none.1 eed
    have lost (ending : String) {stem : List Char}
        (counts : Counts Published.step1b word ⟨ending, HasVowel, Applied Published.mending⟩ stem)
        (only : ∀ other ∈ Published.step1b, other.ending = ending →
          other = ⟨ending, HasVowel, Applied Published.mending⟩) :
        (if hasVowel stem then mend stem else word) = result ↔
          Applied Published.step1b word result := by
      rw [applied_of_only counts only]
      dsimp only
      rw [← mend_iff, ← hasVowel_iff]
      split
      · rename_i yes
        simp [yes]
      · rename_i no
        simp [no, eq_comm]
    cases ed : before? "ed" word with
    | some stem =>
      refine lost "ed" ?_ (by simp [Published.step1b, replacing])
      have splits := before?_eq_some.1 ed
      have noIng : ¬ "ing".toList <:+ word := by
        rintro ⟨front, same⟩
        have last := congrArg List.getLast? (same.trans splits)
        simp at last
      refine Counts.of_longer (by simp [Published.step1b]) splits ?_
      simpa [Published.step1b, replacing] using ⟨noEed, noIng⟩
    | none =>
      have noEd := before?_eq_none.1 ed
      cases ing : before? "ing" word with
      | some stem =>
        refine lost "ing" ?_ (by simp [Published.step1b, replacing])
        refine Counts.of_longer (by simp [Published.step1b]) (before?_eq_some.1 ing) ?_
        simp [Published.step1b, replacing]
      | none =>
        have noIng := before?_eq_none.1 ing
        rw [applied_of_none (by simpa [Published.step1b, replacing] using ⟨noEed, noEd, noIng⟩)]
        exact eq_comm

theorem step1c_iff : step1c word = result ↔ Applied Published.step1c word result := by
  unfold step1c
  cases y : before? "y" word with
  | some stem =>
    have counts : Counts Published.step1c word (replacing "y" "i" HasVowel) stem := by
      refine Counts.of_longer (by simp [Published.step1c]) (before?_eq_some.1 y) ?_
      simp [Published.step1c, replacing]
    rw [applied_replacing counts (by simp [Published.step1c]) hasVowel_iff]
    rfl
  | none =>
    have noY := before?_eq_none.1 y
    rw [applied_of_none (by simpa [Published.step1c, replacing] using noY)]
    exact eq_comm

theorem replaceLongest_iff (table : List (String × String)) :
    replaceLongest table word = result ↔ Applied ((table.map Prod.fst).map fun ending =>
      replacing ending ((table.lookup ending).getD "") (Published.LongerThan 0)) word result := by
  rw [applied_map (fun _ => rfl), replaceLongest]
  cases longest? (table.map Prod.fst) word with
  | none => exact eq_comm
  | some best => exact (fires_or_stays (longerThan_iff 0 best.2)).symm

theorem step2_iff : step2 word = result ↔ Applied Published.step2 word result :=
  replaceLongest_iff rules2

theorem step3_iff : step3 word = result ↔ Applied Published.step3 word result :=
  replaceLongest_iff rules3

theorem step4_iff : step4 word = result ↔ Applied Published.step4 word result := by
  rw [Published.step4, ← endings4, applied_map (fun _ => rfl), step4]
  cases longest? endings4 word with
  | none => exact eq_comm
  | some best =>
    obtain ⟨ending, stem⟩ := best
    have same : (1 < measure stem ∧
        (ending = "ion" → endsIn "s" stem = true ∨ endsIn "t" stem = true)) ↔
          Published.LongerThan 1 stem ∧
            (ending = "ion" → Published.EndsWith 's' stem ∨ Published.EndsWith 't' stem) := by
      rw [longerThan_iff, endsIn_single "s" 's' rfl, endsIn_single "t" 't' rfl]
    refine Iff.trans ?_ (fires_or_stays same).symm
    by_cases long : 1 < measure stem
    · by_cases ion : ending = "ion"
      · cases s : endsIn "s" stem <;> cases t : endsIn "t" stem <;>
          simp [long, ion, Nat.not_le.2 long, s, t]
      · simp [long, ion, Nat.not_le.2 long]
    · simp [long, Nat.not_lt.1 long]

theorem step5a_iff : step5a word = result ↔ Applied Published.step5a word result := by
  unfold step5a
  cases e : before? "e" word with
  | some stem =>
    have counts : Counts Published.step5a word
        (replacing "e" "" (Published.LongerThan 1)) stem := by
      refine Counts.of_longer (by simp [Published.step5a]) (before?_eq_some.1 e) ?_
      simp [Published.step5a, replacing]
    have same : (decide (1 < measure stem) || decide (measure stem = 1) && !endsShort stem) = true ↔
        Published.LongerThan 1 stem ∨ turns stem = 1 ∧ ¬ EndsShort stem := by
      simp [Published.LongerThan, measure_eq, ← endsShort_iff]
    rw [applied_of_counts counts]
    simp only [Published.step5a, replacing, List.mem_cons, List.not_mem_nil, or_false,
      exists_eq_or_imp, exists_eq_left, forall_eq_or_imp, forall_eq, true_and, true_imp_iff]
    rw [← or_and_right, ← not_or, and_comm (a := result = word), fires_or_stays same]
    simp
  | none =>
    have noE := before?_eq_none.1 e
    rw [applied_of_none (by simpa [Published.step5a, replacing] using noE)]
    exact eq_comm

theorem step5b_iff : step5b word = result ↔ Applied Published.step5b word result := by
  have counts : Counts Published.step5b word
      ⟨"", fun stem => Published.LongerThan 1 stem ∧ EndsDouble stem ∧ Published.EndsWith 'l' stem,
        Published.LosesLast⟩ word := by
    refine Counts.of_longer (by simp [Published.step5b]) (by simp) ?_
    simp [Published.step5b]
  have same : (endsIn "l" word && endsDouble word && decide (1 < measure word)) = true ↔
      Published.LongerThan 1 word ∧ EndsDouble word ∧ Published.EndsWith 'l' word := by
    rw [Bool.and_eq_true, Bool.and_eq_true, decide_eq_true_eq, longerThan_iff, endsDouble_iff,
      endsIn_single "l" 'l' rfl, and_comm, and_comm (a := Published.EndsWith _ _)]
  rw [applied_of_only counts (by simp [Published.step5b])]
  exact (fires_or_stays same).symm

theorem inTurn_cons {rules : List Rule} {steps : List (List Rule)} {step : List Char → List Char}
    (same : ∀ {word result : List Char}, step word = result ↔ Applied rules word result) :
    Published.InTurn (rules :: steps) word result ↔ Published.InTurn steps (step word) result := by
  constructor
  · intro run
    cases run with
    | next first rest => exact same.2 first ▸ rest
  · intro run
    exact .next (same.1 rfl) run

/-- The stemmer gives for every word exactly what the published rules make of it. -/
theorem stem_eq_iff (word result : List Char) :
    Porter.stem word = result ↔ Published.Stems word result := by
  unfold Porter.stem Published.Stems
  split
  · exact eq_comm
  · rw [Published.steps, inTurn_cons step1a_iff, inTurn_cons step1b_iff, inTurn_cons step1c_iff,
      inTurn_cons step2_iff, inTurn_cons step3_iff, inTurn_cons step4_iff, inTurn_cons step5a_iff,
      inTurn_cons step5b_iff]
    constructor
    · rintro rfl
      exact .done _
    · intro run
      cases run
      rfl

end Porter
end DocSearch.Stem
