import Mathlib.Data.String.Basic
import DocSearch.Literal.Bytes

/- Places between characters: what is read there byte by byte is what is left of the text, and a piece
between two of them is the text between them. -/
namespace DocSearch.Literal

theorem byteLength_eq (s : List Char) : byteLength s = String.utf8Len s := String.utf8ByteSize_ofList s

theorem byteLength_nil : byteLength [] = 0 := rfl

theorem byteLength_cons (c : Char) (s : List Char) :
    byteLength (c :: s) = c.utf8Size + byteLength s := by
  rw [byteLength_eq, byteLength_eq, String.utf8Len_cons, Nat.add_comm]

theorem byteLength_append (s t : List Char) : byteLength (s ++ t) = byteLength s + byteLength t := by
  rw [byteLength_eq, byteLength_eq, byteLength_eq, String.utf8Len_append]

theorem byteLength_toList (source : String) : byteLength source.toList = source.utf8ByteSize := by
  rw [byteLength, String.ofList_toList]

theorem eq_nil_of_byteLength {s : List Char} (none : byteLength s = 0) : s = [] := by
  cases s with
  | nil => rfl
  | cons c s =>
    have some := c.utf8Size_pos
    rw [byteLength_cons] at none
    omega

/-- The place in a text where only `rest` is left. -/
def place (source : String) (rest : List Char) : Nat := source.utf8ByteSize - byteLength rest

section
variable {source : String} {before middle rest : List Char}

theorem place_eq (parts : source.toList = before ++ rest) : place source rest = byteLength before := by
  rw [place, ← byteLength_toList, parts, byteLength_append]
  omega

theorem exists_before (left : rest <:+ source.toList) :
    ∃ before, source.toList = before ++ rest ∧ place source rest = byteLength before := by
  obtain ⟨before, parts⟩ := left
  exact ⟨before, parts.symm, place_eq parts.symm⟩

theorem place_start (source : String) : place source source.toList = 0 :=
  @place_eq source [] source.toList rfl

theorem place_nil (source : String) : place source [] = source.utf8ByteSize := Nat.sub_zero _

theorem place_append (left : middle ++ rest <:+ source.toList) :
    place source rest = place source (middle ++ rest) + byteLength middle := by
  obtain ⟨before, parts, found⟩ := exists_before left
  rw [found, ← byteLength_append]
  exact place_eq (by rw [parts, List.append_assoc])

theorem place_cons {c : Char} (left : c :: rest <:+ source.toList) :
    place source rest = place source (c :: rest) + c.utf8Size := by
  have moved := @place_append source [c] rest left
  rwa [byteLength_cons, byteLength_nil] at moved

theorem suffix_of_append (left : middle ++ rest <:+ source.toList) : rest <:+ source.toList :=
  (List.suffix_append middle rest).trans left

theorem suffix_of_cons {c : Char} (left : c :: rest <:+ source.toList) : rest <:+ source.toList :=
  (List.suffix_cons c rest).trans left

theorem isValid_byteLength (parts : source.toList = before ++ rest) :
    (⟨byteLength before⟩ : String.Pos.Raw).IsValid source := by
  rw [String.Pos.Raw.isValid_iff_exists_take_toList]
  exact ⟨before.length, by rw [parts, List.take_left]; rfl⟩

theorem place_isValid (left : rest <:+ source.toList) :
    (⟨place source rest⟩ : String.Pos.Raw).IsValid source := by
  obtain ⟨before, parts, found⟩ := exists_before left
  rw [found]
  exact isValid_byteLength parts

theorem exists_place {pos : Nat} (valid : (⟨pos⟩ : String.Pos.Raw).IsValid source) :
    ∃ rest, rest <:+ source.toList ∧ place source rest = pos := by
  obtain ⟨n, counted⟩ := String.Pos.Raw.isValid_iff_exists_take_toList.1 valid
  refine ⟨source.toList.drop n, List.drop_suffix _ _, ?_⟩
  rw [place_eq (List.take_append_drop n source.toList).symm]
  exact counted.symm

theorem place_le (source : String) (rest : List Char) : place source rest ≤ source.utf8ByteSize :=
  Nat.sub_le _ _

theorem ofRest_eq (parts : source.toList = before ++ rest) :
    Position.ofRest source.toList rest = Position.afterReading before := by
  rw [Position.ofRest, parts, List.length_append, Nat.add_sub_cancel, List.take_left]

namespace Bytes

/-- A piece between two places is the text between them. -/
theorem slice?_eq (left : middle ++ rest <:+ source.toList) :
    slice? source (place source (middle ++ rest)) (place source rest) =
      some (String.ofList middle) := by
  have valid := place_isValid left
  have validToo := place_isValid (suffix_of_append left)
  have later := place_append left
  obtain ⟨before, parts, found⟩ := exists_before left
  rw [slice?, if_pos ⟨by omega, valid, validToo⟩, later, found, byteLength_eq, byteLength_eq]
  have taken := String.extract_of_valid before middle rest
  rw [List.append_assoc, ← parts, String.ofList_toList] at taken
  rw [taken]

theorem slice?_eq_some {s : List Char} (left : s <:+ source.toList) {stop : Nat} {text : String}
    (taken : slice? source (place source s) stop = some text) :
    ∃ rest, s = text.toList ++ rest ∧ place source rest = stop := by
  have found := taken
  rw [slice?] at found
  split at found
  · rename_i between
    obtain ⟨order, -, valid⟩ := between
    obtain ⟨rest, suffix, here⟩ := exists_place valid
    have inside : rest <:+ s := by
      rcases List.suffix_or_suffix_of_suffix suffix left with inside | ⟨middle, parts⟩
      · exact inside
      · -- The piece does not end before it begins, so nothing stands in between.
        have earlier := place_append (parts ▸ suffix)
        rw [parts, here] at earlier
        have none := eq_nil_of_byteLength (s := middle) (by omega)
        have same : s = rest := by rw [← parts, none, List.nil_append]
        exact same ▸ List.suffix_refl s
    obtain ⟨middle, parts⟩ := inside
    rw [← parts, ← here, slice?_eq (parts ▸ left)] at taken
    cases taken
    exact ⟨rest, by rw [String.toList_ofList, parts], here⟩
  · cases found

theorem slice_eq (left : middle ++ rest <:+ source.toList) :
    slice source (place source (middle ++ rest)) (place source rest) =
      .ok (String.ofList middle) := by
  rw [slice, slice?_eq left]

theorem slice_to_end (left : rest <:+ source.toList) :
    slice source (place source rest) source.utf8ByteSize = .ok (String.ofList rest) := by
  have whole := @slice_eq source rest [] (by rwa [List.append_nil])
  rwa [List.append_nil, place_nil] at whole

theorem lastNewline?_eq (start : Nat) (text : List Char) :
    match lastNewline? start text with
    | none => '\n' ∉ text
    | some n => ∃ front last, text = front ++ '\n' :: last ∧ '\n' ∉ last ∧
        n = start + byteLength front := by
  induction text generalizing start with
  | nil => exact List.not_mem_nil
  | cons c text ih =>
    have later := ih (start + c.utf8Size)
    rw [lastNewline?]
    cases found : lastNewline? (start + c.utf8Size) text with
    | some n =>
      rw [found] at later
      obtain ⟨front, last, parts, none, counted⟩ := later
      refine ⟨c :: front, last, by rw [parts]; rfl, none, ?_⟩
      rw [counted, byteLength_cons, Nat.add_assoc]
    | none =>
      rw [found] at later
      by_cases newline : c = '\n'
      · rw [if_pos newline]
        exact ⟨[], text, by rw [newline]; rfl, later, rfl⟩
      · rw [if_neg newline]
        intro member
        rcases List.mem_cons.1 member with same | inText
        · exact newline same.symm
        · exact later inText

theorem column_eq {front last : List Char} (none : '\n' ∉ last)
    (begins : front = [] ∨ ['\n'] <:+ front) :
    (Position.afterReading (front ++ last)).column = last.length + 1 := by
  have line : ∀ c ∈ last.reverse, decide (c ≠ '\n') = true := by
    intro c member
    exact decide_eq_true fun same => none (same ▸ List.mem_reverse.1 member)
  have stop : front.reverse.takeWhile (· ≠ '\n') = [] := by
    rcases begins with rfl | ⟨before, rfl⟩
    · rfl
    · simp
  rw [Position.afterReading, List.reverse_append, List.takeWhile_append_of_pos line, stop,
    List.append_nil, List.length_reverse]

theorem locate_eq (left : rest <:+ source.toList) :
    locate source (place source rest) = .ok (Position.ofRest source.toList rest) := by
  obtain ⟨before, parts, found⟩ := exists_before left
  have whole : before ++ rest <:+ source.toList := ⟨[], parts.symm⟩
  have start := slice_eq whole
  rw [← parts, place_start] at start
  rw [ofRest_eq parts, locate, Nat.min_eq_left (place_le source rest), start]
  have last := lastNewline?_eq 0 before
  cases newline : lastNewline? 0 before with
  | none =>
    rw [newline] at last
    have column := column_eq last (Or.inl rfl)
    simp only [bind, Except.bind, pure, Except.pure, String.toList_ofList, newline, found, ← column]
    rfl
  | some n =>
    rw [newline] at last
    obtain ⟨front, line, cut, none, counted⟩ := last
    have lines : before = (front ++ ['\n']) ++ line := by rw [cut, List.append_assoc]; rfl
    have inBefore : (String.ofList before).toList = (front ++ ['\n']) ++ line := by
      rw [String.toList_ofList, lines]
    have behind : place (String.ofList before) line = n + 1 := by
      rw [place_eq inBefore, byteLength_append, byteLength_cons, byteLength_nil, counted,
        Nat.zero_add]
      rfl
    have column := column_eq none (Or.inr (List.suffix_append front ['\n']))
    have isLast : line <:+ (String.ofList before).toList := ⟨_, inBefore.symm⟩
    have taken := slice_to_end isLast
    rw [behind] at taken
    rw [← lines] at column
    simp only [bind, Except.bind, pure, Except.pure, String.toList_ofList, newline, taken, found,
      ← column]
    rfl

theorem fail_eq {α : Type} (flaw : Flaw) (left : rest <:+ source.toList) :
    (fail source flaw (place source rest) : Outcome α) =
      .error (.reported (Fault.locate source.toList ⟨flaw, rest⟩)) := by
  rw [fail, locate_eq left]
  rfl

/-- Whether a byte beyond ASCII passes a test is not up to the byte. -/
def Uniform (test : Char → Bool) : Prop :=
  ∀ c d : Char, 128 ≤ c.toNat → 128 ≤ d.toNat → test c = test d

theorem toNat_ofUInt8 (b : UInt8) : (Char.ofUInt8 b).toNat = b.toNat := UInt8.toNat_toUInt32 b

theorem utf8_ascii {c : Char} (ascii : c.toNat < 128) : c.utf8Size = 1 ∧
    String.utf8EncodeChar c = [c.val.toUInt8] ∧ Char.ofUInt8 c.val.toUInt8 = c := by
  have code : c.val.toNat < 128 := ascii
  have one : c.utf8Size = 1 := by
    rw [Char.utf8Size_eq_one_iff, UInt32.le_iff_toNat_le]
    exact Nat.le_of_lt_succ code
  refine ⟨one, String.utf8EncodeChar_eq_singleton one, ?_⟩
  apply Char.ext
  apply UInt32.toNat_inj.1
  have byte := toNat_ofUInt8 c.val.toUInt8
  rw [UInt32.toNat_toUInt8, Nat.mod_eq_of_lt (by omega)] at byte
  exact byte

theorem le_toNat_ofNat {n : Nat} (low : 128 ≤ n) (small : n < 256) :
    128 ≤ (UInt8.ofNat n).toNat := by
  rw [UInt8.toNat_ofNat', Nat.mod_eq_of_lt small]
  exact low

theorem utf8_other {c : Char} (other : 128 ≤ c.toNat) :
    ∀ b ∈ String.utf8EncodeChar c, 128 ≤ b.toNat := by
  have code : 128 ≤ c.val.toNat := other
  intro b member
  simp only [String.utf8EncodeChar] at member
  split at member
  · omega
  · split at member
    · simp only [List.mem_cons, List.not_mem_nil, or_false] at member
      rcases member with rfl | rfl
      all_goals exact le_toNat_ofNat (by omega) (by omega)
    · split at member
      · simp only [List.mem_cons, List.not_mem_nil, or_false] at member
        rcases member with rfl | rfl | rfl
        all_goals exact le_toNat_ofNat (by omega) (by omega)
      · simp only [List.mem_cons, List.not_mem_nil, or_false] at member
        rcases member with rfl | rfl | rfl | rfl
        all_goals exact le_toNat_ofNat (by omega) (by omega)

theorem byte_of_char {c : Char} {b : UInt8} (member : b ∈ String.utf8EncodeChar c) :
    c.toNat < 128 ∧ Char.ofUInt8 b = c ∨ 128 ≤ c.toNat ∧ 128 ≤ (Char.ofUInt8 b).toNat := by
  by_cases ascii : c.toNat < 128
  · obtain ⟨-, single, same⟩ := utf8_ascii ascii
    rw [single, List.mem_singleton] at member
    exact Or.inl ⟨ascii, by rw [member, same]⟩
  · have other := Nat.not_lt.1 ascii
    rw [toNat_ofUInt8]
    exact Or.inr ⟨other, utf8_other other b member⟩

theorem test_byte {test : Char → Bool} (uniform : Uniform test) {c : Char} {b : UInt8}
    (member : b ∈ String.utf8EncodeChar c) : test (Char.ofUInt8 b) = test c := by
  rcases byte_of_char member with ⟨-, same⟩ | ⟨other, otherToo⟩
  · rw [same]
  · exact uniform _ _ otherToo other

theorem getElem?_toByteArray (source : String) (i : Nat) :
    source.toByteArray[i]? = (source.toList.flatMap String.utf8EncodeChar)[i]? := by
  obtain ⟨s, rfl⟩ := source.exists_eq_ofList
  rw [String.toByteArray_ofList, String.toList_ofList, List.utf8Encode]
  generalize s.flatMap String.utf8EncodeChar = bytes
  by_cases inside : i < bytes.length
  · rw [getElem?_pos bytes i inside, getElem?_pos _ i (by simpa using inside)]
    simp [ByteArray.getElem_eq_getElem_data]
  · rw [getElem?_neg bytes i inside, getElem?_neg _ i (by simpa using inside)]

theorem length_bytes (s : List Char) :
    (s.flatMap String.utf8EncodeChar).length = byteLength s := by
  induction s with
  | nil => rfl
  | cons c s ih =>
    rw [List.flatMap_cons, List.length_append, ih, String.length_utf8EncodeChar, byteLength_cons]

theorem peek_nil (source : String) : peek source (place source []) = none := by
  rw [peek, getElem?_toByteArray, List.getElem?_eq_none]
  · rfl
  · rw [length_bytes, byteLength_toList, place_nil]

/-- The byte at each place from the beginning of a character to its end is one of its bytes. -/
theorem peek_within {c : Char} (left : c :: rest <:+ source.toList) {k : Nat}
    (inside : k < c.utf8Size) : ∃ b ∈ String.utf8EncodeChar c,
      peek source (place source (c :: rest) + k) = some (Char.ofUInt8 b) := by
  obtain ⟨before, parts, found⟩ := exists_before left
  have within : k < (String.utf8EncodeChar c).length := by rwa [String.length_utf8EncodeChar]
  refine ⟨(String.utf8EncodeChar c)[k], List.getElem_mem within, ?_⟩
  rw [peek, getElem?_toByteArray, parts, List.flatMap_append, List.flatMap_cons, found,
    ← length_bytes, List.getElem?_append_right (Nat.le_add_right _ _), Nat.add_sub_cancel_left,
    List.getElem?_append_left within, List.getElem?_eq_getElem within]
  rfl

theorem peek_cons {c : Char} (left : c :: rest <:+ source.toList) :
    ∃ d, peek source (place source (c :: rest)) = some d ∧
      (c.toNat < 128 ∧ d = c ∨ 128 ≤ c.toNat ∧ 128 ≤ d.toNat) := by
  obtain ⟨b, member, found⟩ := peek_within left c.utf8Size_pos
  exact ⟨Char.ofUInt8 b, found, byte_of_char member⟩

/-- A character is passed as a whole or not at all. -/
theorem pass_char {test : Char → Bool} (uniform : Uniform test) {c : Char}
    (left : c :: rest <:+ source.toList) (passes : test c = true) (count : Nat) :
    pass source test (c.utf8Size + count) (place source (c :: rest)) =
      pass source test count (place source rest) := by
  have bytes (n k : Nat) (size : k + n = c.utf8Size) :
      pass source test (n + count) (place source (c :: rest) + k) =
        pass source test count (place source rest) := by
    induction n generalizing k with
    | zero => rw [Nat.zero_add, place_cons left, ← size, Nat.add_zero]
    | succ n ih =>
      obtain ⟨b, member, found⟩ := peek_within left (k := k) (by omega)
      have same := test_byte uniform member
      rw [Nat.succ_add, pass, found, Option.any_some, same, if_pos passes]
      exact ih (k + 1) (by omega)
  exact bytes c.utf8Size 0 (Nat.zero_add _)

theorem passAll_eq {test : Char → Bool} (uniform : Uniform test) {s : List Char}
    (left : s <:+ source.toList) :
    passAll source test (place source s) = place source (s.dropWhile test) := by
  have counted : source.utf8ByteSize - place source s = byteLength s := by
    obtain ⟨before, parts, found⟩ := exists_before left
    rw [found, ← byteLength_toList, parts, byteLength_append]
    omega
  rw [passAll, counted]
  clear counted
  induction s with
  | nil => rfl
  | cons c s ih =>
    rw [byteLength_cons]
    by_cases passes : test c = true
    · rw [pass_char uniform left passes, List.dropWhile_cons_of_pos passes]
      exact ih (suffix_of_cons left)
    · rw [List.dropWhile_cons_of_neg passes]
      obtain ⟨n, size⟩ := Nat.exists_eq_add_one_of_ne_zero (Nat.ne_of_gt c.utf8Size_pos)
      obtain ⟨b, member, found⟩ := peek_within left c.utf8Size_pos
      rw [Nat.add_zero] at found
      rw [size, Nat.succ_add, pass, found, Option.any_some, test_byte uniform member,
        if_neg passes]

end Bytes
end
end DocSearch.Literal
