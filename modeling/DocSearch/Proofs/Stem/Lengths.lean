import DocSearch.Proofs.Stem.Buffer
import DocSearch.Query.Language

/- How long stems are: every step leaves something of a word and makes it no longer. A step that puts
letters on has taken off as many before. -/
namespace DocSearch.Stem.Porter
variable {word stem : List Char}

/-- Something is left, and no more than there was. -/
structure Within (word result : List Char) : Prop where
  filled : result ≠ []
  size : result.length ≤ word.length

theorem Within.trans {between result : List Char} (first : Within word between)
    (second : Within between result) : Within word result :=
  ⟨second.filled, Nat.le_trans second.size first.size⟩

theorem Within.same (filled : word ≠ []) : Within word word := ⟨filled, Nat.le_refl _⟩

theorem Within.replaced {ending replacement : List Char} (splits : word = stem ++ ending)
    (filled : stem ≠ []) (size : replacement.length ≤ ending.length) :
    Within word (stem ++ replacement) := by
  constructor
  · exact List.append_ne_nil_of_left_ne_nil filled replacement
  · rw [splits, List.length_append, List.length_append]
    omega

theorem Within.cut {ending : List Char} (splits : word = stem ++ ending) (filled : stem ≠ []) :
    Within word stem := by
  constructor
  · exact filled
  · rw [splits, List.length_append]
    omega

theorem ne_nil_of_measure (long : 0 < measure stem) : stem ≠ [] := by
  intro empty
  rw [empty] at long
  exact Nat.not_lt_zero _ long

theorem ne_nil_of_hasVowel (vowel : hasVowel stem = true) : stem ≠ [] := by
  intro empty
  rw [empty] at vowel
  cases vowel

theorem dropLast_within (double : endsDouble word = true) : Within word word.dropLast := by
  obtain ⟨front, c, rfl, -⟩ := endsDouble_iff.1 double
  constructor
  · simp
  · simp

/-- The only step that could use up a word, if the word were the one letter it takes off. -/
theorem step1a_within (two : 2 ≤ word.length) : Within word (step1a word) := by
  have filled : word ≠ [] := List.ne_nil_of_length_pos (by omega)
  unfold step1a
  cases sses : before? "sses" word with
  | some stem =>
    constructor
    · simp
    · simp [before?_eq_some.1 sses]
  | none =>
    cases ies : before? "ies" word with
    | some stem =>
      constructor
      · simp
      · simp [before?_eq_some.1 ies]
    | none =>
      dsimp only
      split
      · exact .same filled
      · cases s : before? "s" word with
        | none => exact .same filled
        | some stem =>
          have splits := before?_eq_some.1 s
          have size := congrArg List.length splits
          rw [List.length_append] at size
          have one : "s".toList.length = 1 := rfl
          rw [Option.getD_some]
          exact .cut splits (List.ne_nil_of_length_pos (by omega))

theorem mend_size (filled : stem ≠ []) :
    mend stem ≠ [] ∧ (mend stem).length ≤ stem.length + 1 := by
  unfold mend
  split
  · simp
  · split
    · rename_i both
      have within := dropLast_within (Bool.and_eq_true_iff.1 both).1
      exact ⟨within.filled, Nat.le_succ_of_le within.size⟩
    · split
      · simp
      · exact ⟨filled, Nat.le_succ _⟩

theorem mend_within {ending : List Char} (splits : word = stem ++ ending) (some : 1 ≤ ending.length)
    (vowel : hasVowel stem = true) : Within word (mend stem) := by
  obtain ⟨filled, size⟩ := mend_size (ne_nil_of_hasVowel vowel)
  refine ⟨filled, ?_⟩
  rw [splits, List.length_append]
  omega

theorem step1b_within (filled : word ≠ []) : Within word (step1b word) := by
  unfold step1b
  cases eed : before? "eed" word with
  | some stem =>
    dsimp only
    split
    · rename_i long
      exact .replaced (before?_eq_some.1 eed) (ne_nil_of_measure long) (by decide)
    · exact .same filled
  | none =>
    dsimp only
    split
    · rename_i stem found
      split
      · rename_i vowel
        rcases Option.or_eq_some_iff.1 found with ed | ⟨-, ing⟩
        · exact mend_within (before?_eq_some.1 ed) (by decide) vowel
        · exact mend_within (before?_eq_some.1 ing) (by decide) vowel
      · exact .same filled
    · exact .same filled

theorem step1c_within (filled : word ≠ []) : Within word (step1c word) := by
  unfold step1c
  split
  · rename_i stem y
    split
    · rename_i vowel
      exact .replaced (before?_eq_some.1 y) (ne_nil_of_hasVowel vowel) (by decide)
    · exact .same filled
  · exact .same filled

theorem longest?_splits {endings : List String} {ending : String}
    (found : longest? endings word = some (ending, stem)) : word = stem ++ ending.toList := by
  have longest := longest?_longest endings word
  rw [found] at longest
  exact longest.2.1

theorem replaceLongest_within {rules : List (String × String)}
    (shorter : ∀ rule ∈ rules, rule.2.toList.length ≤ rule.1.toList.length) (filled : word ≠ []) :
    Within word (replaceLongest rules word) := by
  unfold replaceLongest
  split
  · rename_i ending stem found
    split
    · rename_i long
      refine .replaced (longest?_splits found) (ne_nil_of_measure long) ?_
      cases taken : rules.lookup ending with
      | none => exact Nat.zero_le _
      | some replacement =>
        obtain ⟨before, after, shape, -⟩ := List.lookup_eq_some_iff.1 taken
        exact shorter (ending, replacement) (by simp [shape])
    · exact .same filled
  · exact .same filled

theorem step2_within (filled : word ≠ []) : Within word (step2 word) :=
  replaceLongest_within (by decide) filled

theorem step3_within (filled : word ≠ []) : Within word (step3 word) :=
  replaceLongest_within (by decide) filled

theorem step4_within (filled : word ≠ []) : Within word (step4 word) := by
  unfold step4
  split
  · rename_i ending stem found
    split
    · exact .same filled
    · rename_i long
      split
      · exact .same filled
      · exact .cut (longest?_splits found) (ne_nil_of_measure (by omega))
  · exact .same filled

theorem step5a_within (filled : word ≠ []) : Within word (step5a word) := by
  unfold step5a
  split
  · rename_i stem e
    split
    · rename_i long
      have some : 0 < measure stem := by
        by_contra none
        simp [show measure stem = 0 by omega] at long
      exact .cut (before?_eq_some.1 e) (ne_nil_of_measure some)
    · exact .same filled
  · exact .same filled

theorem step5b_within (filled : word ≠ []) : Within word (step5b word) := by
  unfold step5b
  split
  · rename_i both
    rw [Bool.and_eq_true, Bool.and_eq_true] at both
    exact dropLast_within both.1.2
  · exact .same filled

theorem stem_within (three : 3 ≤ word.length) : Within word (Porter.stem word) := by
  rw [Porter.stem, if_neg (by omega)]
  have first := step1a_within (Nat.le_of_succ_le three)
  have second := first.trans (step1b_within first.filled)
  have third := second.trans (step1c_within second.filled)
  have fourth := third.trans (step2_within third.filled)
  have fifth := fourth.trans (step3_within fourth.filled)
  have sixth := fifth.trans (step4_within fifth.filled)
  have seventh := sixth.trans (step5a_within sixth.filled)
  exact seventh.trans (step5b_within seventh.filled)

theorem stem_short (short : word.length < 3) : Porter.stem word = word := if_pos short

/-- A stem that is used is no shorter than three letters, unless the word is. -/
theorem stemWord_sizes [Stemmers] (word : List Char) :
    min 3 word.length ≤ (Language.english.stemWord word).length ∧
      (Language.english.stemWord word).length ≤ word.length := by
  have size : (Porter.stem word).length ≤ word.length := by
    by_cases short : word.length < 3
    · exact Nat.le_of_eq (congrArg List.length (stem_short short))
    · exact (stem_within (Nat.not_lt.1 short)).size
  have stemmed : Language.english.stem word = Porter.stem word := rfl
  rw [Language.stemWord, stemmed, Language.minStemLength]
  split
  · omega
  · rename_i used
    by_cases short : word.length < 3
    · rw [stem_short short]
      omega
    · simp only [Bool.and_eq_true, decide_eq_true_eq, not_and] at used
      omega

/-- The stemmer reads no letter outside its buffer, and leaves of every word at least one letter and at
most as many as it has. A word of fewer than three letters stays, and in a query no stem is shorter than
three letters unless the word is. -/
theorem stem_in_bounds [Stemmers] (word : List Char) :
    Buffer.stem word = some (Porter.stem word) ∧
      (word.length < 3 → Porter.stem word = word) ∧
      (3 ≤ word.length → 1 ≤ (Porter.stem word).length ∧ (Porter.stem word).length ≤ word.length) ∧
      min 3 word.length ≤ (Language.english.stemWord word).length ∧
      (Language.english.stemWord word).length ≤ word.length := by
  refine ⟨Buffer.stem_eq word, stem_short, ?_, stemWord_sizes word⟩
  intro three
  have within := stem_within three
  exact ⟨List.length_pos_iff.2 within.filled, within.size⟩

end DocSearch.Stem.Porter
