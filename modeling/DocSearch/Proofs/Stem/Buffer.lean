import DocSearch.Proofs.Stem.Letters
import DocSearch.Proofs.Stem.Rules
import DocSearch.Stem.Buffer

/- Reading the buffer by index never goes outside it: on every word each function of the stemmer gives
what the same function gives that takes the word apart. -/
namespace DocSearch.Stem.Buffer
variable {b : List Char} {len i : Nat}

theorem minus_eq {n k : Nat} (enough : k ≤ n) : minus n k = some (n - k) := if_pos enough

theorem isConsonant_letter (after : Bool) (c : Char) : Porter.isConsonant after c =
    if Porter.isVowelLetter c then false else if c = 'y' then !after else true := by
  have cons := Porter.consonants_cons after c []
  rw [Porter.consonants] at cons
  exact (List.cons.inj cons).1.symm

theorem isConsonant_eq (b : List Char) (i : Nat) : isConsonant b i = (Porter.flags b)[i]? := by
  induction i with
  | zero =>
    rw [isConsonant, Porter.flags, Porter.getElem?_consonants_zero]
    cases b[0]? with
    | none => rfl
    | some c =>
      cases vowel : Porter.isVowelLetter c <;> simp [isConsonant_letter, vowel]
  | succ i ih =>
    rw [isConsonant, Porter.flags, Porter.getElem?_consonants_succ, ih]
    cases found : b[i + 1]? with
    | none => rfl
    | some c =>
      have inside : i < (Porter.flags b).length := by
        rw [Porter.length_flags]
        have := (List.getElem?_eq_some_iff.1 found).1
        omega
      rw [Porter.flags] at inside ⊢
      rw [List.getElem?_eq_getElem inside]
      cases vowel : Porter.isVowelLetter c
      · by_cases isY : c = 'y'
        · simp [isConsonant_letter, isY, show Porter.isVowelLetter 'y' = false by decide]
        · simp [isConsonant_letter, vowel, isY]
      · simp [isConsonant_letter, vowel]

theorem flags_take (b : List Char) (len : Nat) :
    Porter.flags (b.take len) = (Porter.flags b).take len := by
  have front (before : Bool) :
      Porter.consonants before (b.take len) = (Porter.consonants before b).take len := by
    induction b generalizing before len with
    | nil => simp [Porter.consonants]
    | cons c rest ih =>
      cases len with
      | zero => simp [Porter.consonants]
      | succ len => rw [List.take_succ_cons, Porter.consonants_cons, Porter.consonants_cons, ih,
          List.take_succ_cons]
  exact front false

/-- What is known of the first letters of the buffer, whatever stands behind them. -/
structure Front (b : List Char) (len : Nat) (flags : List Bool) : Prop where
  size : flags.length = len
  read : ∀ i < len, isConsonant b i = flags[i]?

theorem Front.take (fits : len ≤ b.length) : Front b len (Porter.flags (b.take len)) where
  size := by rw [Porter.length_flags, List.length_take, Nat.min_eq_left fits]
  read i inside := by rw [isConsonant_eq, flags_take, List.getElem?_take_of_lt inside]

namespace Front
variable {flags : List Bool}

theorem drop_eq (front : Front b len flags) (inside : i < len) :
    ∃ flag, isConsonant b i = some flag ∧ flags.drop i = flag :: flags.drop (i + 1) := by
  have within : i < flags.length := front.size.symm ▸ inside
  refine ⟨flags[i], ?_, List.drop_eq_getElem_cons within⟩
  rw [front.read i inside, List.getElem?_eq_getElem within]

theorem drop_len (front : Front b len flags) (outside : len ≤ i) : flags.drop i = [] :=
  List.drop_eq_nil_of_le (by rw [front.size]; exact outside)

theorem pass_eq (front : Front b len flags) (consonants : Bool) (i count : Nat)
    (rest : i + count = len) : ∃ next, pass b consonants i count = some next ∧ i ≤ next ∧
      next ≤ len ∧ flags.drop next = (flags.drop i).dropWhile (· == consonants) := by
  induction count generalizing i with
  | zero =>
    have none := front.drop_len (i := i) (by omega)
    exact ⟨i, rfl, Nat.le_refl i, by omega, by rw [none]; rfl⟩
  | succ count ih =>
    obtain ⟨flag, found, here⟩ := front.drop_eq (i := i) (by omega)
    by_cases same : flag = consonants
    · obtain ⟨next, passed, later, within, left⟩ := ih (i + 1) (by omega)
      refine ⟨next, ?_, by omega, within, ?_⟩
      · simp [pass, found, same, passed]
      · rw [left, here, List.dropWhile_cons_of_pos (by simp [same])]
    · refine ⟨i, ?_, Nat.le_refl i, by omega, ?_⟩
      · simp [pass, found, same]
      · rw [here, List.dropWhile_cons_of_neg (by simp [same])]

end Front

theorem sequences_consonants (flags : List Bool) :
    Porter.sequences false flags = Porter.sequences false (flags.dropWhile (· == true)) := by
  induction flags with
  | nil => rfl
  | cons flag rest ih => cases flag <;> simp [Porter.sequences, ih]

theorem sequences_vowels (flags : List Bool) :
    Porter.sequences true flags = Porter.sequences true (flags.dropWhile (· == false)) := by
  induction flags with
  | nil => rfl
  | cons flag rest ih => cases flag <;> simp [Porter.sequences, ih]

/-- The count goes on from a place where no consonant stands, so every round passes a vowel. -/
theorem measureFrom_eq {flags : List Bool} (front : Front b len flags) (fuel i m : Nat)
    (enough : len < i + fuel) (within : i ≤ len) (vowel : (flags.drop i).head? ≠ some true) :
    measureFrom b len fuel i m = some (m + Porter.sequences false (flags.drop i)) := by
  induction fuel generalizing i m with
  | zero => omega
  | succ fuel ih =>
    obtain ⟨next, passed, later, inside, left⟩ := front.pass_eq false i (len - i) (by omega)
    by_cases done : len ≤ i
    · have same : len ≤ next := by omega
      simp [measureFrom, passed, same, front.drop_len done, Porter.sequences]
    · obtain ⟨flag, -, here⟩ := front.drop_eq (Nat.not_le.1 done)
      obtain rfl : flag = false := by simpa [here] using vowel
      rw [here, List.dropWhile_cons_of_pos rfl] at left
      have count : Porter.sequences false (flags.drop i) =
          Porter.sequences true (flags.drop next) := by
        rw [left, ← sequences_vowels, here, Porter.sequences]
      have moved : i < next := by
        have shorter := (List.dropWhile_suffix (l := flags.drop (i + 1)) (· == false)).length_le
        rw [← left, List.length_drop, List.length_drop, front.size] at shorter
        omega
      by_cases last : len ≤ next
      · simp [measureFrom, passed, last, count, front.drop_len last, Porter.sequences]
      · obtain ⟨flag, -, there⟩ := front.drop_eq (Nat.not_le.1 last)
        obtain rfl : flag = true := by
          have stopped := List.head?_dropWhile_not (· == false) (flags.drop (i + 1))
          rw [← left, there] at stopped
          simpa using stopped
        obtain ⟨after, passedToo, laterToo, insideToo, leftToo⟩ :=
          front.pass_eq true next (len - next) (by omega)
        have stopped := List.head?_dropWhile_not (· == true) (flags.drop next)
        rw [← leftToo] at stopped
        have round := ih after (m + 1) (by omega) insideToo (by grind)
        rw [count, there, Porter.sequences, sequences_consonants]
        rw [there, List.dropWhile_cons_of_pos rfl] at leftToo
        simp [measureFrom, passed, last, passedToo, round, leftToo, Nat.add_assoc]

theorem measure_eq {flags : List Bool} (front : Front b len flags) :
    measure b len = some (Porter.sequences false flags) := by
  obtain ⟨next, passed, -, inside, left⟩ := front.pass_eq true 0 len (Nat.zero_add len)
  have stopped := List.head?_dropWhile_not (· == true) flags
  rw [List.drop_zero] at left
  rw [sequences_consonants, ← left]
  have counted := measureFrom_eq front (len + 1) next 0 (by omega) inside (by rw [left]; grind)
  simpa [measure, passed] using counted

theorem measure_take (fits : len ≤ b.length) :
    measure b len = some (Porter.measure (b.take len)) :=
  measure_eq (.take fits)

theorem hasVowelFrom_eq {flags : List Bool} (front : Front b len flags) (i count : Nat)
    (rest : i + count = len) : hasVowelFrom b i count = some ((flags.drop i).any (!·)) := by
  induction count generalizing i with
  | zero => simp [hasVowelFrom, front.drop_len (i := i) (by omega)]
  | succ count ih =>
    obtain ⟨flag, found, here⟩ := front.drop_eq (i := i) (by omega)
    have later := ih (i + 1) (by omega)
    cases flag <;> simp [hasVowelFrom, found, here, later]

theorem hasVowel_take (fits : len ≤ b.length) :
    hasVowel b len = some (Porter.hasVowel (b.take len)) := by
  rw [hasVowel, hasVowelFrom_eq (.take fits) 0 len (Nat.zero_add len)]
  rfl

theorem letter_back (fits : len ≤ b.length) {i k : Nat} (back : i + k + 1 = len) :
    b[i]? = (b.take len).reverse[k]? := by
  have size : (b.take len).length = len := by rw [List.length_take, Nat.min_eq_left fits]
  rw [List.getElem?_reverse (by omega), List.getElem?_take_of_lt (by omega), size]
  congr 1
  omega

theorem flag_back (fits : len ≤ b.length) {i k : Nat} (back : i + k + 1 = len) :
    isConsonant b i = (Porter.flags (b.take len)).reverse[k]? := by
  have front := Front.take fits
  rw [front.read i (by omega), List.getElem?_reverse (by rw [front.size]; omega), front.size]
  congr 1
  omega

theorem back_lengths (fits : len ≤ b.length) : (b.take len).reverse.length = len ∧
    (Porter.flags (b.take len)).reverse.length = len := by
  rw [List.length_reverse, List.length_reverse, (Front.take fits).size, List.length_take]
  omega

theorem exists_head {α : Type} {s : List α} (some : 0 < len) (size : s.length = len) :
    ∃ a rest, s = a :: rest ∧ rest.length = len - 1 := by
  cases s with
  | nil =>
    rw [List.length_nil] at size
    omega
  | cons a rest =>
    rw [List.length_cons] at size
    exact ⟨a, rest, rfl, by omega⟩

theorem endsDouble_take (fits : len ≤ b.length) :
    endsDouble b len = some (Porter.endsDouble (b.take len)) := by
  obtain ⟨size, marked⟩ := back_lengths fits
  by_cases few : len < 2
  · rcases letters : (b.take len).reverse with _ | ⟨c, _ | ⟨d, rest⟩⟩
    · simp [endsDouble, few, Porter.endsDouble, letters]
    · simp [endsDouble, few, Porter.endsDouble, letters]
    · rw [letters, List.length_cons, List.length_cons] at size
      omega
  · have last := letter_back fits (i := len - 1) (k := 0) (by omega)
    have other := letter_back fits (i := len - 2) (k := 1) (by omega)
    have flag := flag_back fits (i := len - 1) (k := 0) (by omega)
    have one := minus_eq (n := len) (k := 1) (by omega)
    have two := minus_eq (n := len) (k := 2) (by omega)
    obtain ⟨c, front, letters, more⟩ := exists_head (by omega) size
    obtain ⟨d, rest, others, -⟩ := exists_head (by omega) more
    obtain ⟨mark, marksFront, marks, -⟩ := exists_head (by omega) marked
    rw [others] at letters
    rw [letters] at last other
    rw [marks] at flag
    by_cases same : c = d <;>
      simp [endsDouble, few, one, two, last, other, flag, same, Porter.endsDouble, letters, marks]

theorem endsShort_take (fits : len ≤ b.length) :
    endsShort b len = some (Porter.endsShort (b.take len)) := by
  obtain ⟨size, marked⟩ := back_lengths fits
  by_cases few : len < 3
  · rcases marks : (Porter.flags (b.take len)).reverse with _ | ⟨z, _ | ⟨y, _ | ⟨x, rest⟩⟩⟩
    · simp [endsShort, few, Porter.endsShort, marks]
    · simp [endsShort, few, Porter.endsShort, marks]
    · simp [endsShort, few, Porter.endsShort, marks]
    · rw [marks, List.length_cons, List.length_cons, List.length_cons] at marked
      omega
  · have last := letter_back fits (i := len - 1) (k := 0) (by omega)
    have third := flag_back fits (i := len - 3) (k := 2) (by omega)
    have second := flag_back fits (i := len - 2) (k := 1) (by omega)
    have first := flag_back fits (i := len - 1) (k := 0) (by omega)
    have one := minus_eq (n := len) (k := 1) (by omega)
    have two := minus_eq (n := len) (k := 2) (by omega)
    have three := minus_eq (n := len) (k := 3) (by omega)
    obtain ⟨c, front, letters, -⟩ := exists_head (by omega) size
    obtain ⟨z, marksFront, marks, more⟩ := exists_head (by omega) marked
    obtain ⟨y, marksFront, others, more⟩ := exists_head (by omega) more
    obtain ⟨x, rest, farthest, -⟩ := exists_head (by omega) more
    rw [others, farthest] at marks
    rw [letters] at last
    rw [marks] at first second third
    cases x <;> cases y <;> cases z <;>
      simp [endsShort, few, one, two, three, last, first, second, third, Porter.endsShort, letters,
        marks]

section Stems
variable {stem : List Char} {ending : String}

theorem ends_some (found : before? ending b = some stem) :
    ends b ending = some (some stem.length) := by
  have splits := before?_eq_some.1 found
  have size := congrArg List.length splits
  rw [List.length_append] at size
  have start : b.length - ending.toList.length = stem.length := by omega
  have behind : sliceFrom b stem.length = some ending.toList := by
    rw [sliceFrom, if_pos (by omega), splits, List.drop_left]
  have enough := minus_eq (n := b.length) (k := ending.toList.length) (by omega)
  have fits : ¬ b.length < ending.toList.length := by omega
  simp only [ends, fits, if_false, enough, start, behind, if_true, Option.pure_def,
    Option.bind_eq_bind, Option.bind_some]

theorem ends_none (found : before? ending b = none) : ends b ending = some none := by
  have noEnding := before?_eq_none.1 found
  by_cases few : b.length < ending.toList.length
  · simp only [ends, few, if_true, Option.pure_def]
  · have enough := minus_eq (n := b.length) (k := ending.toList.length) (by omega)
    have behind : sliceFrom b (b.length - ending.toList.length) =
        some (b.drop (b.length - ending.toList.length)) := if_pos (Nat.sub_le _ _)
    have other : b.drop (b.length - ending.toList.length) ≠ ending.toList := by
      intro same
      exact noEnding (same ▸ List.drop_suffix _ _)
    simp only [ends, few, if_false, enough, behind, other, Option.pure_def,
      Option.bind_eq_bind, Option.bind_some]

theorem ends_eq (b : List Char) (ending : String) :
    ends b ending = some ((before? ending b).map List.length) := by
  cases found : before? ending b with
  | none => exact ends_none found
  | some stem => exact ends_some found

theorem endsIn_eq (b : List Char) (ending : String) :
    endsIn b ending = some (Stem.endsIn ending b) := by
  have same : (before? ending b).isSome = Stem.endsIn ending b := by
    rw [Bool.eq_iff_iff, endsIn_iff, Option.isSome_iff_ne_none, Ne, before?_eq_none, not_not]
  simp [endsIn, ends_eq, same]

theorem prefix_of_before (found : before? ending b = some stem) : stem <+: b :=
  ⟨ending.toList, (before?_eq_some.1 found).symm⟩

theorem measure_eq_of_prefix (begins : stem <+: b) :
    measure b stem.length = some (Porter.measure stem) := by
  have taken := measure_take begins.length_le
  rwa [← List.prefix_iff_eq_take.1 begins] at taken

theorem hasVowel_eq (begins : stem <+: b) :
    hasVowel b stem.length = some (Porter.hasVowel stem) := by
  have taken := hasVowel_take begins.length_le
  rwa [← List.prefix_iff_eq_take.1 begins] at taken

theorem endsShort_eq (begins : stem <+: b) :
    endsShort b stem.length = some (Porter.endsShort stem) := by
  have taken := endsShort_take begins.length_le
  rwa [← List.prefix_iff_eq_take.1 begins] at taken

theorem setTo_eq (begins : stem <+: b) : setTo b stem.length ending = stem ++ ending.toList := by
  rw [setTo, ← List.prefix_iff_eq_take.1 begins]

theorem longest_eq (b : List Char) (endings : List String) (best : Option (String × List Char)) :
    longest b endings (best.map fun (ending, stem) => (ending, stem.length)) =
      some ((endings.foldl (longer b) best).map fun (ending, stem) => (ending, stem.length)) := by
  induction endings generalizing best with
  | nil => rfl
  | cons ending endings ih =>
    rw [List.foldl_cons, ← ih, longest, ends_eq]
    unfold longer
    cases before? ending b with
    | none => rfl
    | some stem =>
      cases best with
      | none => rfl
      | some best =>
        by_cases shorter : stem.length < best.2.length <;> simp [shorter]

theorem longest?_eq (b : List Char) (endings : List String) : longest b endings none =
    some ((longest? endings b).map fun (ending, stem) => (ending, stem.length)) :=
  longest_eq b endings none

theorem prefix_of_longest {endings : List String} (found : longest? endings b = some (ending, stem)) :
    stem <+: b := by
  have longest := longest?_longest endings b
  rw [found] at longest
  exact ⟨ending.toList, longest.2.1.symm⟩

end Stems

/- Every step gives what it gives on whole words. -/

theorem step1a_eq (b : List Char) : step1a b = some (Porter.step1a b) := by
  cases sses : before? "sses" b with
  | some stem =>
    simp [step1a, Porter.step1a, ends_eq, sses, setTo_eq (prefix_of_before sses)]
  | none =>
    cases ies : before? "ies" b with
    | some stem =>
      simp [step1a, Porter.step1a, ends_eq, sses, ies, setTo_eq (prefix_of_before ies)]
    | none =>
      cases ss : Stem.endsIn "ss" b with
      | true => simp [step1a, Porter.step1a, ends_eq, endsIn_eq, sses, ies, ss]
      | false =>
        cases s : before? "s" b with
        | some stem =>
          simp [step1a, Porter.step1a, ends_eq, endsIn_eq, sses, ies, ss, s,
            setTo_eq (prefix_of_before s)]
        | none => simp [step1a, Porter.step1a, ends_eq, endsIn_eq, sses, ies, ss, s]

theorem endsIn_last (ending : String) (c : Char) (single : ending.toList = [c])
    (front : List Char) (d : Char) : Stem.endsIn ending (front ++ [d]) = decide (d = c) := by
  rw [Bool.eq_iff_iff, endsIn_iff, single, decide_eq_true_eq,
    List.singleton_suffix_append_singleton_iff, eq_comm]

theorem endsDouble_eq (b : List Char) : endsDouble b b.length = some (Porter.endsDouble b) := by
  have taken := endsDouble_take (Nat.le_refl b.length)
  rwa [List.take_length] at taken

theorem mend_eq (b : List Char) : mend b = some (Porter.mend b) := by
  have counted := measure_eq_of_prefix (List.prefix_refl b)
  have short := endsShort_eq (List.prefix_refl b)
  have rest : (if Porter.measure b = 1 then
      if Porter.endsShort b then some (b ++ ['e']) else some b else some b) =
      some (if Porter.measure b = 1 && Porter.endsShort b then b ++ ['e'] else b) := by
    by_cases one : Porter.measure b = 1 <;> cases Porter.endsShort b <;> simp [one]
  cases endsAt : Stem.endsIn "at" b
  · cases bl : Stem.endsIn "bl" b
    · cases iz : Stem.endsIn "iz" b
      · cases double : Porter.endsDouble b
        · simp [mend, Porter.mend, endsIn_eq, endsAt, bl, iz, endsDouble_eq, double, counted, short, rest]
        · obtain ⟨front, c, shape, -⟩ := Porter.endsDouble_iff.1 double
          have two : 1 ≤ b.length := by
            rw [shape, List.length_append, List.length_cons]
            omega
          have read : b[b.length - 1]? = some c := by simp [shape]
          have last (ending : String) (d : Char) (single : ending.toList = [d]) :
              Stem.endsIn ending b = decide (c = d) := by
            rw [shape, ← endsIn_last ending d single (front ++ [c]) c, List.append_assoc]
            rfl
          have l := last "l" 'l' rfl
          have s := last "s" 's' rfl
          have z := last "z" 'z' rfl
          have one := minus_eq two
          by_cases isL : c = 'l' <;> by_cases isS : c = 's' <;> by_cases isZ : c = 'z' <;>
            simp [mend, Porter.mend, endsIn_eq, endsAt, bl, iz, endsDouble_eq, double, one, read, l, s, z,
              isL, isS, isZ, counted, short, rest]
      · simp [mend, Porter.mend, endsIn_eq, endsAt, bl, iz]
    · simp [mend, Porter.mend, endsIn_eq, endsAt, bl]
  · simp [mend, Porter.mend, endsIn_eq, endsAt]

theorem step1b_eq (b : List Char) : step1b b = some (Porter.step1b b) := by
  cases eed : before? "eed" b with
  | some stem =>
    have begins := prefix_of_before eed
    by_cases long : 0 < Porter.measure stem <;>
      simp [step1b, Porter.step1b, ends_eq, eed, measure_eq_of_prefix begins, setTo_eq begins, long]
  | none =>
    cases ed : before? "ed" b with
    | some stem =>
      have begins := prefix_of_before ed
      cases vowel : Porter.hasVowel stem <;>
        simp [step1b, Porter.step1b, ends_eq, eed, ed, hasVowel_eq begins, setTo_eq begins, vowel,
          mend_eq]
    | none =>
      cases ing : before? "ing" b with
      | some stem =>
        have begins := prefix_of_before ing
        cases vowel : Porter.hasVowel stem <;>
          simp [step1b, Porter.step1b, ends_eq, eed, ed, ing, hasVowel_eq begins, setTo_eq begins,
            vowel, mend_eq]
      | none => simp [step1b, Porter.step1b, ends_eq, eed, ed, ing]

theorem step1c_eq (b : List Char) : step1c b = some (Porter.step1c b) := by
  cases y : before? "y" b with
  | some stem =>
    have begins := prefix_of_before y
    cases vowel : Porter.hasVowel stem <;>
      simp [step1c, Porter.step1c, ends_eq, y, hasVowel_eq begins, setTo_eq begins, vowel]
  | none => simp [step1c, Porter.step1c, ends_eq, y]

theorem replaceLongest_eq (rules : List (String × String)) (b : List Char) :
    replaceLongest rules b = some (Porter.replaceLongest rules b) := by
  cases found : longest? (rules.map Prod.fst) b with
  | none => simp [replaceLongest, Porter.replaceLongest, longest?_eq, found]
  | some best =>
    obtain ⟨ending, stem⟩ := best
    have begins := prefix_of_longest found
    have listed : ending ∈ rules.map Prod.fst := by
      have longest := longest?_longest (rules.map Prod.fst) b
      rw [found] at longest
      exact longest.1
    obtain ⟨replacement, taken⟩ : ∃ replacement, rules.lookup ending = some replacement := by
      rw [← Option.ne_none_iff_exists', Ne, List.lookup_eq_none_iff]
      obtain ⟨rule, member, rfl⟩ := List.mem_map.1 listed
      intro none
      simpa using none rule member
    by_cases long : 0 < Porter.measure stem <;>
      simp [replaceLongest, Porter.replaceLongest, longest?_eq, found, measure_eq_of_prefix begins,
        taken, long, setTo_eq begins]

theorem step4_eq (b : List Char) : step4 b = some (Porter.step4 b) := by
  cases found : longest? Porter.endings4 b with
  | none => simp [step4, Porter.step4, longest?_eq, found]
  | some best =>
    obtain ⟨ending, stem⟩ := best
    have begins := prefix_of_longest found
    by_cases short : Porter.measure stem ≤ 1
    · simp [step4, Porter.step4, longest?_eq, found, measure_eq_of_prefix begins, short]
    · by_cases ion : ending = "ion"
      · -- A stem with a measure is not empty, so there is a letter before the ending.
        rcases List.eq_nil_or_concat stem with rfl | ⟨front, c, shape⟩
        · exact absurd (Nat.zero_le 1) short
        · rw [List.concat_eq_append] at shape
          have size : 1 ≤ stem.length := by simp [shape]
          have before : b[stem.length - 1]? = some c := by
            obtain ⟨rest, rfl⟩ := begins
            simp [shape]
          have one := minus_eq size
          have filled : stem ≠ [] := List.ne_nil_of_length_pos size
          have s := shape ▸ endsIn_last "s" 's' rfl front c
          have t := shape ▸ endsIn_last "t" 't' rfl front c
          by_cases isS : c = 's' <;> by_cases isT : c = 't' <;>
            simp [step4, Porter.step4, longest?_eq, found, measure_eq_of_prefix begins, short, ion,
              filled, one, before, s, t, isS, isT, setTo_eq begins]
      · simp [step4, Porter.step4, longest?_eq, found, measure_eq_of_prefix begins, short, ion,
          setTo_eq begins]

theorem step5a_eq (b : List Char) : step5a b = some (Porter.step5a b) := by
  cases e : before? "e" b with
  | some stem =>
    have begins := prefix_of_before e
    by_cases long : 1 < Porter.measure stem
    · simp [step5a, Porter.step5a, ends_eq, e, measure_eq_of_prefix begins, long, setTo_eq begins]
    · by_cases one : Porter.measure stem = 1
      · cases short : Porter.endsShort stem <;>
          simp [step5a, Porter.step5a, ends_eq, e, measure_eq_of_prefix begins, one,
            endsShort_eq begins, short, setTo_eq begins]
      · simp [step5a, Porter.step5a, ends_eq, e, measure_eq_of_prefix begins, long, one]
  | none => simp [step5a, Porter.step5a, ends_eq, e]

theorem step5b_eq (b : List Char) : step5b b = some (Porter.step5b b) := by
  have counted := measure_eq_of_prefix (List.prefix_refl b)
  have last : Stem.endsIn "l" b = decide (b.getLast? = some 'l') := by
    rcases List.eq_nil_or_concat b with rfl | ⟨front, c, rfl⟩
    · rfl
    · rw [List.concat_eq_append, endsIn_last "l" 'l' rfl, List.getLast?_concat]
      simp
  by_cases isL : b.getLast? = some 'l'
  · cases double : Porter.endsDouble b <;>
      by_cases long : 1 < Porter.measure b <;>
        simp [step5b, Porter.step5b, isL, last, endsDouble_eq, double, counted, long]
  · simp [step5b, Porter.step5b, isL, last]

/-- The stemmer stays inside the buffer on every word and comes to an end. -/
theorem stem_eq (word : List Char) : stem word = some (Porter.stem word) := by
  by_cases short : word.length < 3
  · simp [stem, Porter.stem, short]
  · simp [stem, Porter.stem, short, step1a_eq, step1b_eq, step1c_eq, replaceLongest_eq, step4_eq,
      step5a_eq, step5b_eq, Porter.step2, Porter.step3]

end DocSearch.Stem.Buffer
