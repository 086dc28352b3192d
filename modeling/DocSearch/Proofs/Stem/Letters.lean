import Mathlib.Data.List.Count
import DocSearch.Stem.Porter

/- Vowels and consonants by their places in a word. Reading a word once from the front finds the same
ones, and so the same measure and the same endings. -/
namespace DocSearch.Stem

/-- A consonant is a letter other than a, e, i, o and u, and other than a y behind a consonant. -/
def ConsonantAt (word : List Char) : Nat → Prop
  | 0 => ∃ c ∈ word[0]?, c ∉ ['a', 'e', 'i', 'o', 'u']
  | i + 1 => ∃ c ∈ word[i + 1]?, c ∉ ['a', 'e', 'i', 'o', 'u'] ∧ (c = 'y' → ¬ ConsonantAt word i)

instance decidableConsonantAt (word : List Char) : (i : Nat) → Decidable (ConsonantAt word i)
  | 0 => Option.decidableExistsMem word[0]?
  | i + 1 =>
    have := decidableConsonantAt word i
    Option.decidableExistsMem word[i + 1]?

def VowelAt (word : List Char) (i : Nat) : Prop := i < word.length ∧ ¬ ConsonantAt word i

instance (word : List Char) (i : Nat) : Decidable (VowelAt word i) :=
  inferInstanceAs (Decidable (i < word.length ∧ ¬ ConsonantAt word i))

def turns (word : List Char) : Nat :=
  (List.range word.length).countP fun i => VowelAt word i ∧ ConsonantAt word (i + 1)

def HasVowel (word : List Char) : Prop := ∃ i, VowelAt word i

/-- The word ends in a double consonant, one letter twice that is a consonant at the end. Of two `y` the
first is then a vowel. -/
def EndsDouble (word : List Char) : Prop :=
  ∃ front c, word = front ++ [c, c] ∧ ConsonantAt word (front.length + 1)

def EndsShort (word : List Char) : Prop :=
  ∃ front c d e, word = front ++ [c, d, e] ∧ ConsonantAt word front.length ∧
    VowelAt word (front.length + 1) ∧ ConsonantAt word (front.length + 2) ∧ e ∉ ['w', 'x', 'y']

theorem ConsonantAt.lt {word : List Char} {i : Nat} (consonant : ConsonantAt word i) :
    i < word.length := by
  cases i with
  | zero =>
    obtain ⟨c, found, _⟩ := consonant
    exact (List.getElem?_eq_some_iff.1 found).1
  | succ i =>
    obtain ⟨c, found, _⟩ := consonant
    exact (List.getElem?_eq_some_iff.1 found).1

/-- Of two equal letters the first can only be a vowel if they are two `y`. -/
theorem EndsDouble.not_short {word : List Char} (double : EndsDouble word) : ¬ EndsShort word := by
  rintro ⟨front, c, d, e, shape, _, vowel, last, other⟩
  obtain ⟨before, f, shapeToo, consonant⟩ := double
  have shapes : (front ++ [c]) ++ [d, e] = before ++ [f, f] := by
    rw [← shapeToo, shape]
    simp
  obtain ⟨rfl, letters⟩ := List.append_inj' shapes rfl
  obtain ⟨rfl, rfl⟩ : d = f ∧ e = f := by simpa using letters
  rw [List.length_append, List.length_singleton] at consonant
  -- The last letter is no vowel letter, so the one before it can only be one as a `y`.
  obtain ⟨g, found, noVowel, _⟩ := consonant
  have letter (k : Nat) : word[front.length + k]? = [c, e, e][k]? := by
    rw [shape, List.getElem?_append_right (Nat.le_add_right _ _), Nat.add_sub_cancel_left]
  obtain rfl : e = g := Option.some.inj ((letter 2).symm.trans found)
  have noY : e ≠ 'y' := fun isY => other (by simp [isY])
  exact vowel.2 ⟨e, letter 1, noVowel, fun isY => absurd isY noY⟩

namespace Porter
variable {word : List Char} {i : Nat}

def isConsonant (afterConsonant : Bool) (c : Char) : Bool :=
  decide (c ∉ ['a', 'e', 'i', 'o', 'u'] ∧ (c = 'y' → afterConsonant = false))

theorem consonants_cons (afterConsonant : Bool) (c : Char) (rest : List Char) :
    consonants afterConsonant (c :: rest) =
      isConsonant afterConsonant c :: consonants (isConsonant afterConsonant c) rest := by
  have same : (if isVowelLetter c then false else if c = 'y' then !afterConsonant else true) =
      isConsonant afterConsonant c := by
    have letter : isVowelLetter c = true ↔ c ∈ ['a', 'e', 'i', 'o', 'u'] := by
      simp [isVowelLetter, or_assoc]
    by_cases vowel : c ∈ ['a', 'e', 'i', 'o', 'u']
    · rw [if_pos (letter.2 vowel)]
      exact (decide_eq_false fun both => both.1 vowel).symm
    · rw [if_neg (mt letter.1 vowel)]
      by_cases isY : c = 'y'
      · simp [isConsonant, isY]
      · exact (if_neg isY).trans (decide_eq_true ⟨vowel, fun same => absurd same isY⟩).symm
  rw [consonants, same]

theorem length_flags (word : List Char) : (flags word).length = word.length := by
  have sized (before : Bool) : (consonants before word).length = word.length := by
    induction word generalizing before with
    | nil => rfl
    | cons c rest ih => rw [consonants_cons, List.length_cons, ih, List.length_cons]
  exact sized false

theorem getElem?_consonants_zero (before : Bool) (word : List Char) :
    (consonants before word)[0]? = (word[0]?).map (isConsonant before) := by
  cases word with
  | nil => rfl
  | cons c rest => rw [consonants_cons]; rfl

theorem getElem?_consonants_succ (before : Bool) (word : List Char) (i : Nat) :
    (consonants before word)[i + 1]? = (word[i + 1]?).map
      (isConsonant (decide ((consonants before word)[i]? = some true))) := by
  induction word generalizing before i with
  | nil => rfl
  | cons c rest ih =>
    rw [consonants_cons]
    cases i with
    | zero =>
      rw [List.getElem?_cons_succ, List.getElem?_cons_succ, List.getElem?_cons_zero,
        getElem?_consonants_zero]
      simp
    | succ i => exact ih _ i

theorem getElem?_flags (word : List Char) (i : Nat) :
    (flags word)[i]? = (word[i]?).map fun _ => decide (ConsonantAt word i) := by
  induction i with
  | zero =>
    rw [flags, getElem?_consonants_zero]
    cases found : word[0]? with
    | none => rfl
    | some c =>
      refine congrArg some (decide_eq_decide.2 ?_)
      simp [ConsonantAt, found]
  | succ i ih =>
    rw [flags] at ih ⊢
    rw [getElem?_consonants_succ, ih]
    cases found : word[i + 1]? with
    | none => rfl
    | some c =>
      obtain ⟨inside, _⟩ := List.getElem?_eq_some_iff.1 found
      have before : word[i]? = some word[i] := List.getElem?_eq_getElem (by omega)
      refine congrArg some (decide_eq_decide.2 ?_)
      simp [ConsonantAt, found, before]

theorem flags_consonant : (flags word)[i]? = some true ↔ ConsonantAt word i := by
  rw [getElem?_flags, Option.map_eq_some_iff]
  constructor
  · rintro ⟨c, _, holds⟩
    exact of_decide_eq_true holds
  · intro consonant
    exact ⟨_, List.getElem?_eq_getElem consonant.lt, decide_eq_true consonant⟩

theorem flags_vowel : (flags word)[i]? = some false ↔ VowelAt word i := by
  rw [getElem?_flags, Option.map_eq_some_iff]
  constructor
  · rintro ⟨c, found, fails⟩
    obtain ⟨inside, _⟩ := List.getElem?_eq_some_iff.1 found
    exact ⟨inside, of_decide_eq_false fails⟩
  · rintro ⟨inside, vowel⟩
    exact ⟨word[i], List.getElem?_eq_getElem inside, decide_eq_false vowel⟩

theorem sequences_eq (inVowels : Bool) (flags : List Bool) :
    sequences inVowels flags = (if inVowels = true ∧ flags[0]? = some true then 1 else 0) +
      (List.range flags.length).countP fun i => flags[i]? = some false ∧ flags[i + 1]? = some true := by
  induction flags generalizing inVowels with
  | nil => simp [sequences]
  | cons flag rest ih =>
    rw [List.length_cons, List.range_succ_eq_map, List.countP_cons, List.countP_map]
    cases flag with
    | true =>
      rw [sequences, ih false]
      simp [Function.comp_def]
    | false =>
      rw [sequences, ih true]
      simp [Function.comp_def, Nat.add_comm]

theorem measure_eq (stem : List Char) : measure stem = turns stem := by
  rw [measure, sequences_eq, length_flags, turns, if_neg (by simp), Nat.zero_add]
  simp only [flags_vowel, flags_consonant]

theorem hasVowel_iff : hasVowel word = true ↔ HasVowel word := by
  simp only [hasVowel, List.any_eq_true, Bool.not_eq_true', exists_eq_right, HasVowel,
    List.mem_iff_getElem?, flags_vowel]

theorem flags_eq (word : List Char) :
    flags word = (List.range word.length).map fun i => decide (ConsonantAt word i) := by
  apply List.ext_getElem?
  intro i
  rw [getElem?_flags, List.getElem?_map]
  by_cases inside : i < word.length
  · rw [List.getElem?_range inside, List.getElem?_eq_getElem inside]
    rfl
  · have outside := Nat.not_lt.1 inside
    rw [List.getElem?_eq_none outside, List.getElem?_eq_none (by rwa [List.length_range])]
    rfl

theorem endsDouble_iff : endsDouble word = true ↔ EndsDouble word := by
  have read (front : List Char) (c d : Char) : endsDouble (front ++ [c, d]) = true ↔
      d = c ∧ ConsonantAt (front ++ [c, d]) (front.length + 1) := by
    simp [endsDouble, flags_eq, List.range_succ]
  constructor
  · intro double
    match letters : word.reverse with
    | [] | [c] => simp [endsDouble, letters] at double
    | d :: c :: rest =>
      have shape : word = rest.reverse ++ [c, d] := by
        rw [← List.reverse_reverse word, letters]
        simp
      rw [shape, read] at double
      obtain ⟨rfl, consonant⟩ := double
      exact ⟨rest.reverse, d, shape, shape ▸ consonant⟩
  · rintro ⟨front, c, shape, consonant⟩
    rw [shape] at consonant ⊢
    exact (read front c c).2 ⟨rfl, consonant⟩

theorem endsShort_iff : endsShort word = true ↔ EndsShort word := by
  have read (front : List Char) (c d e : Char) : endsShort (front ++ [c, d, e]) = true ↔
      ConsonantAt (front ++ [c, d, e]) front.length ∧
        VowelAt (front ++ [c, d, e]) (front.length + 1) ∧
          ConsonantAt (front ++ [c, d, e]) (front.length + 2) ∧ e ∉ ['w', 'x', 'y'] := by
    by_cases last : ConsonantAt (front ++ [c, d, e]) (front.length + 2) <;>
      by_cases middle : ConsonantAt (front ++ [c, d, e]) (front.length + 1) <;>
        by_cases first : ConsonantAt (front ++ [c, d, e]) front.length <;>
          simp [endsShort, flags_eq, List.range_succ, VowelAt, last, middle, first]
    · simp [and_assoc]
  constructor
  · intro short
    match letters : word.reverse with
    | [] | [e] | [e, d] =>
      have few := congrArg List.length letters
      rw [List.length_reverse, ← length_flags, ← List.length_reverse] at few
      unfold endsShort at short
      split at short
      · rename_i marks
        simp [marks] at few
      · cases short
    | e :: d :: c :: rest =>
      have shape : word = rest.reverse ++ [c, d, e] := by
        rw [← List.reverse_reverse word, letters]
        simp
      rw [shape, read, ← shape] at short
      exact ⟨rest.reverse, c, d, e, shape, short⟩
  · rintro ⟨front, c, d, e, shape, short⟩
    rw [shape] at short ⊢
    exact (read front c d e).2 short

end Porter
end DocSearch.Stem
