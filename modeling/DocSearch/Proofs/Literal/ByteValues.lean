import Mathlib.Data.List.DropRight
import DocSearch.Proofs.Literal.ByteNumbers

/- Values and whole texts, read byte by byte. -/
namespace DocSearch.Literal.Bytes
variable {source : String} {s rest : List Char}

theorem isSpace_ascii {c : Char} (space : isSpace c = true) : c.toNat < 128 := by
  rcases (isSpace_iff c).1 space with rfl | rfl | rfl | rfl <;> decide

theorem skipSpace_eq (inText : s <:+ source.toList) :
    skipSpace source (place source s) = place source (Literal.skipSpace s) :=
  passAll_eq (uniform_of_ascii fun _ => isSpace_ascii) inText

theorem skipSpace_suffix (s : List Char) : Literal.skipSpace s <:+ s := List.dropWhile_suffix _

def Reads (source : String) (s : List Char) (taken : Except Fault Reading) (read : Outcome Found) :
    Prop :=
  Mirrors source s Reading.rest (fun found => ((found.value, found.bare), place source found.rest))
    taken read

theorem skipSpace_skipSpace (s : List Char) :
    Literal.skipSpace (Literal.skipSpace s) = Literal.skipSpace s := List.dropWhile_idempotent _ _

structure ReadsItems (source : String) (item : List Char → Except Fault Reading)
    (itemAt : Nat → Outcome Found) : Prop where
  mirrors : ∀ s, s <:+ source.toList → Reads source s (item s) (itemAt (place source s))
  /-- Space before a value makes no difference. -/
  spaced : ∀ s, item (Literal.skipSpace s) = item s

section
variable {item : List Char → Except Fault Reading} {itemAt : Nat → Outcome Found}
  (reads : ReadsItems source item itemAt)
include reads

theorem readItems_mirrors (inText : s <:+ source.toList) (fuel : Nat) (enough : s.length < fuel)
    (bare : Bool) (items : List Value) : Reads source s (takeItems item bare items fuel s)
      (readItems source itemAt fuel bare items (place source s)) := by
  induction fuel generalizing s bare items with
  | zero => omega
  | succ fuel ih =>
    rw [takeItems, readItems]
    refine .bind (reads.mirrors s inText) fun read suffix => ?_
    have shorter := (skipSpace_suffix read.rest).trans suffix
    have fewer := shorter.length_le
    dsimp only
    rw [skipSpace_eq (suffix.trans inText)]
    refine .mono (skipSpace_suffix read.rest) ?_
    have inText := shorter.trans inText
    generalize Literal.skipSpace read.rest = left at *
    split
    · rename_i rest
      rw [(peek_eq_iff inText (by decide)).2 ⟨rest, rfl⟩, place_succ inText (by decide)]
      rw [List.length_cons] at fewer
      exact .mono (List.suffix_cons _ _) (ih (suffix_of_cons inText) (by omega) _ _)
    · rename_i rest
      rw [(peek_eq_iff inText (by decide)).2 ⟨rest, rfl⟩, place_succ inText (by decide)]
      exact ⟨List.suffix_cons _ _, rfl⟩
    · rename_i noComma noClose
      split
      · exact absurd ‹_› (peek_ne inText (by decide) noComma)
      · exact absurd ‹_› (peek_ne inText (by decide) noClose)
      · exact .fail _ (List.suffix_refl _) inText

theorem readArray_mirrors (inText : '[' :: s <:+ source.toList) {fuel : Nat}
    (enough : s.length < fuel) : Reads source s (takeArray item fuel s)
      (readArray source itemAt fuel (place source ('[' :: s))) := by
  have shorter := skipSpace_suffix s
  have inside := shorter.trans (suffix_of_cons inText)
  have fewer := shorter.length_le
  rw [readArray, expect_cons inText (by decide), ok_bind, skipSpace_eq (suffix_of_cons inText)]
  refine .mono shorter ?_
  have spaced : takeItems item false [] fuel s = takeItems item false [] fuel (Literal.skipSpace s) := by
    cases fuel with
    | zero => omega
    | succ fuel => rw [takeItems, takeItems, reads.spaced]
  rw [takeArray, spaced]
  generalize Literal.skipSpace s = left at *
  split
  · rename_i rest
    rw [if_pos ((peek_eq_iff inside (by decide)).2 ⟨rest, rfl⟩), place_succ inside (by decide)]
    exact ⟨List.suffix_cons _ _, rfl⟩
  · rename_i noClose
    rw [if_neg (peek_ne inside (by decide) noClose)]
    exact readItems_mirrors reads inside fuel (by omega) false []

theorem readMembers_mirrors (inText : s <:+ source.toList) (fuel : Nat) (enough : s.length < fuel)
    (bare : Bool) (members : List (String × Value)) :
    Reads source s (takeMembers item bare members fuel s)
      (readMembers source itemAt fuel bare members (place source s)) := by
  induction fuel generalizing s bare members with
  | zero => omega
  | succ fuel ih =>
    have begins := skipSpace_suffix s
    have least := begins.length_le
    rw [takeMembers, readMembers, skipSpace_eq inText]
    refine .mono begins ?_
    have inText := begins.trans inText
    generalize Literal.skipSpace s = start at *
    dsimp only
    refine .bind_back (readKey_mirrors inText (by omega)) fun read _ suffix => ?_
    obtain ⟨key, keyBare, afterKey⟩ := read
    have colonSuffix := (skipSpace_suffix afterKey).trans suffix
    dsimp only at suffix ⊢
    rw [skipSpace_eq (suffix.trans inText)]
    generalize Literal.skipSpace afterKey = afterKey at *
    split
    · rename_i afterColon
      have behind := (List.suffix_cons _ _).trans colonSuffix
      rw [expect_cons (colonSuffix.trans inText) (by decide), ok_bind]
      refine .bind_back (.mono behind (reads.mirrors _ (behind.trans inText))) ?_
      intro read _ suffix
      dsimp only
      cases entered : enter (String.ofList key) read.value members with
      | none => exact .fail _ (List.suffix_refl _) inText
      | some members =>
        have shorter := (skipSpace_suffix read.rest).trans suffix
        have fewer := shorter.length_le
        dsimp only
        rw [skipSpace_eq (suffix.trans inText)]
        have inText := shorter.trans inText
        refine .mono shorter ?_
        generalize Literal.skipSpace read.rest = left at *
        split
        · rename_i rest
          rw [(peek_eq_iff inText (by decide)).2 ⟨rest, rfl⟩, place_succ inText (by decide)]
          rw [List.length_cons] at fewer
          exact .mono (List.suffix_cons _ _) (ih (suffix_of_cons inText) (by omega) _ _)
        · rename_i rest
          rw [(peek_eq_iff inText (by decide)).2 ⟨rest, rfl⟩, place_succ inText (by decide)]
          exact ⟨List.suffix_cons _ _, rfl⟩
        · rename_i noComma noClose
          split
          · exact absurd ‹_› (peek_ne inText (by decide) noComma)
          · exact absurd ‹_› (peek_ne inText (by decide) noClose)
          · exact .fail _ (List.suffix_refl _) inText
    · rename_i noColon
      have inText := colonSuffix.trans inText
      rw [expect_other inText (by decide) noColon, fail_eq _ inText]
      exact ⟨colonSuffix, rfl⟩

theorem readObject_mirrors (inText : '\x7b' :: s <:+ source.toList) {fuel : Nat}
    (enough : s.length < fuel) : Reads source s (takeObject item fuel s)
      (readObject source itemAt fuel (place source ('\x7b' :: s))) := by
  have shorter := skipSpace_suffix s
  have inside := shorter.trans (suffix_of_cons inText)
  have fewer := shorter.length_le
  rw [readObject, expect_cons inText (by decide), ok_bind, skipSpace_eq (suffix_of_cons inText)]
  refine .mono shorter ?_
  have spaced : takeMembers item false [] fuel s = takeMembers item false [] fuel (Literal.skipSpace s) := by
    cases fuel with
    | zero => omega
    | succ fuel => rw [takeMembers, takeMembers, skipSpace_skipSpace]
  rw [takeObject, spaced]
  generalize Literal.skipSpace s = left at *
  split
  · rename_i rest
    rw [if_pos ((peek_eq_iff inside (by decide)).2 ⟨rest, rfl⟩), place_succ inside (by decide)]
    exact ⟨List.suffix_cons _ _, rfl⟩
  · rename_i noClose
    rw [if_neg (peek_ne inside (by decide) noClose)]
    exact readMembers_mirrors reads inside fuel (by omega) false []

end
theorem readWord_found {word : String} (inText : word.toList ++ rest <:+ source.toList)
    (value : Value) : readWord source word value (place source (word.toList ++ rest)) =
      .ok ((value, false), place source rest) := by
  have found : Text.after? word.toList (word.toList ++ rest) = some rest := after?_eq_some.2 rfl
  rw [readWord, eat_eq inText, ok_bind, found]
  rfl

theorem readWord_missing {word : String} (inText : s <:+ source.toList) (value : Value)
    (missing : ∀ rest, s ≠ word.toList ++ rest) : readWord source word value (place source s) =
      fail source .missingValue (place source s) := by
  rw [readWord, eat_eq inText, ok_bind, after?_eq_none missing]
  rfl

theorem takeValue_spaced (fuel depth : Nat) (s : List Char) :
    takeValue fuel depth (Literal.skipSpace s) = takeValue fuel depth s := by
  rw [takeValue, takeValue, skipSpace_skipSpace]

def startsNumber (c : Char) : Bool := c = '-' || c.isDigit

theorem startsNumber_ascii {c : Char} (starts : startsNumber c = true) : c.toNat < 128 := by
  rcases Bool.or_eq_true_iff.1 starts with minus | digit
  · rw [of_decide_eq_true minus]
    decide
  · exact isDigit_ascii digit

theorem readScalar_number {c : Char} {pos : Nat} (seen : peek source pos = some c)
    (starts : startsNumber c = true) (fuel : Nat) : readScalar source fuel pos =
      readNumber source pos >>= fun read => .ok ((.number read.1, false), read.2) := by
  have other {a : Char} (none : startsNumber a = false) : c ≠ a := by
    rintro rfl
    rw [starts] at none
    cases none
  rw [readScalar, seen]
  split
  · exact absurd (Option.some.inj ‹_›) (other (by decide))
  · exact absurd (Option.some.inj ‹_›) (other (by decide))
  · exact absurd (Option.some.inj ‹_›) (other (by decide))
  · exact absurd (Option.some.inj ‹_›) (other (by decide))
  · rename_i same
    cases same
    exact if_pos starts
  · rename_i none
    cases none

/-- Where no value begins, no matter which byte of a character is seen. -/
theorem readScalar_missing {c : Char} (inText : c :: rest <:+ source.toList)
    (noQuote : c ≠ '"') (noWord : ∀ word ∈ ["true", "false", "null"], ∀ after,
      c :: rest ≠ word.toList ++ after) (noNumber : startsNumber c = false) (fuel : Nat) :
    readScalar source fuel (place source (c :: rest)) =
      fail source .missingValue (place source (c :: rest)) := by
  have tested := peek_any (fun _ => startsNumber_ascii) inText
  have here := @peek_eq_iff source _ inText '"' (by decide)
  obtain ⟨d, seen, -⟩ := peek_cons inText
  rw [seen] at tested here
  rw [Option.any_some, List.head?_cons, Option.any_some, noNumber] at tested
  rw [readScalar, seen]
  split
  · rename_i same
    obtain ⟨after, begins⟩ := here.1 same
    exact absurd (List.cons.inj begins).1 noQuote
  · exact readWord_missing inText _ (noWord "true" (by decide))
  · exact readWord_missing inText _ (noWord "false" (by decide))
  · exact readWord_missing inText _ (noWord "null" (by decide))
  · rename_i same
    cases same
    exact if_neg (ne_true_of_eq_false tested)
  · rename_i none
    cases none

theorem readScalar_mirrors (inText : s <:+ source.toList) {fuel : Nat} (enough : s.length ≤ fuel)
    (noSpace : Literal.skipSpace s = s) (noBrace : ∀ rest, s ≠ '\x7b' :: rest)
    (noBracket : ∀ rest, s ≠ '[' :: rest) (depth : Nat) :
    Reads source s (takeValue fuel depth s) (readScalar source fuel (place source s)) := by
  rw [takeValue, noSpace]
  split
  · rw [readScalar, peek_nil]
    exact .fail _ (List.suffix_refl _) inText
  · exact absurd rfl (noBrace _)
  · exact absurd rfl (noBracket _)
  · rename_i rest
    rw [List.length_cons] at enough
    rw [readScalar, (peek_eq_iff inText (by decide)).2 ⟨rest, rfl⟩, map_eq_bind]
    refine .mono (List.suffix_cons _ _) (.bind (readString_mirrors inText (by omega)) ?_)
    intro read _
    exact ⟨List.suffix_refl _, rfl⟩
  · rename_i rest
    rw [readScalar, (peek_eq_iff inText (by decide)).2 ⟨_, rfl⟩]
    exact ⟨List.suffix_append "true".toList rest, readWord_found inText _⟩
  · rename_i rest
    rw [readScalar, (peek_eq_iff inText (by decide)).2 ⟨_, rfl⟩]
    exact ⟨List.suffix_append "false".toList rest, readWord_found inText _⟩
  · rename_i rest
    rw [readScalar, (peek_eq_iff inText (by decide)).2 ⟨_, rfl⟩]
    exact ⟨List.suffix_append "null".toList rest, readWord_found inText _⟩
  · rename_i c rest _ _ noQuote noTrue noFalse noNull
    have numeral : (decide (c = '-') || c.isDigit) = startsNumber c := rfl
    rw [numeral]
    cases starts : startsNumber c with
    | true =>
      have seen := (peek_eq_iff inText (startsNumber_ascii starts)).2 ⟨rest, rfl⟩
      rw [if_pos rfl, readScalar_number seen starts, map_eq_bind]
      refine .bind (readNumber_mirrors inText) fun read _ => ?_
      exact ⟨List.suffix_refl _, rfl⟩
    | false =>
      have noWord : ∀ word ∈ ["true", "false", "null"], ∀ after,
          c :: rest ≠ word.toList ++ after := by
        intro word member after parts
        simp only [List.mem_cons, List.not_mem_nil, or_false] at member
        rcases member with rfl | rfl | rfl
        · exact noTrue after (List.cons.inj parts).1 (List.cons.inj parts).2
        · exact noFalse after (List.cons.inj parts).1 (List.cons.inj parts).2
        · exact noNull after (List.cons.inj parts).1 (List.cons.inj parts).2
      rw [if_neg Bool.false_ne_true, readScalar_missing inText noQuote noWord starts]
      exact .fail _ (List.suffix_refl _) inText

theorem takeValue_brace {fuel : Nat} (depth : Nat) (rest : List Char) :
    takeValue fuel depth ('\x7b' :: rest) =
      match depth with
      | 0 => .error ⟨.nestedTooDeeply, '\x7b' :: rest⟩
      | depth + 1 => takeObject (takeValue fuel depth) fuel rest := by
  rw [takeValue]
  rfl

theorem takeValue_bracket {fuel : Nat} (depth : Nat) (rest : List Char) :
    takeValue fuel depth ('[' :: rest) =
      match depth with
      | 0 => .error ⟨.nestedTooDeeply, '[' :: rest⟩
      | depth + 1 => takeArray (takeValue fuel depth) fuel rest := by
  rw [takeValue]
  rfl

theorem readValue_mirrors {fuel : Nat} (enough : source.toList.length ≤ fuel) (depth : Nat) :
    ReadsItems source (takeValue fuel depth) (readValue source fuel depth) := by
  induction depth using Nat.strongRecOn with
  | ind depth ih =>
    refine ⟨?_, takeValue_spaced fuel depth⟩
    intro s inText
    unfold readValue
    dsimp only
    rw [skipSpace_eq inText, ← takeValue_spaced]
    have shorter := skipSpace_suffix s
    have spaced := skipSpace_skipSpace s
    refine .mono shorter ?_
    replace inText := shorter.trans inText
    generalize Literal.skipSpace s = s at *
    have fewer := inText.length_le
    by_cases brace : ∃ rest, s = '\x7b' :: rest
    · obtain ⟨rest, rfl⟩ := brace
      rw [List.length_cons] at fewer
      rw [if_pos ((peek_eq_iff inText (by decide)).2 ⟨rest, rfl⟩), takeValue_brace]
      cases depth with
      | zero => exact .fail _ (List.suffix_refl _) inText
      | succ depth =>
        have inside := ih depth (Nat.lt_succ_self depth)
        exact .mono (List.suffix_cons _ _) (readObject_mirrors inside inText (by omega))
    rw [not_exists] at brace
    rw [if_neg (peek_ne inText (by decide) brace)]
    by_cases bracket : ∃ rest, s = '[' :: rest
    · obtain ⟨rest, rfl⟩ := bracket
      rw [List.length_cons] at fewer
      rw [if_pos ((peek_eq_iff inText (by decide)).2 ⟨rest, rfl⟩), takeValue_bracket]
      cases depth with
      | zero => exact .fail _ (List.suffix_refl _) inText
      | succ depth =>
        have inside := ih depth (Nat.lt_succ_self depth)
        exact .mono (List.suffix_cons _ _) (readArray_mirrors inside inText (by omega))
    rw [not_exists] at bracket
    rw [if_neg (peek_ne inText (by decide) bracket)]
    exact readScalar_mirrors inText (Nat.le_trans fewer enough) spaced brace bracket depth

theorem skipMark_eq (source : String) :
    skipMark source = place source (Literal.skipMark source.toList) ∧
      Literal.skipMark source.toList <:+ source.toList := by
  by_cases marked : ∃ rest, source.toList = '\ufeff' :: rest
  · obtain ⟨rest, parts⟩ := marked
    have begins : Text.beginsWith "\ufeff" source = true := by
      rw [Text.beginsWith, List.isPrefixOf_iff_prefix, parts]
      exact ⟨rest, rfl⟩
    have behind : place source rest = '\ufeff'.utf8Size := by
      rw [@place_eq source ['\ufeff'] rest parts]
      rfl
    rw [skipMark, if_pos begins, parts, Literal.skipMark, behind]
    exact ⟨rfl, List.suffix_cons _ _⟩
  · have begins : ¬ Text.beginsWith "\ufeff" source = true := by
      rw [Text.beginsWith, List.isPrefixOf_iff_prefix]
      rintro ⟨rest, parts⟩
      exact marked ⟨rest, parts.symm⟩
    have same : Literal.skipMark source.toList = source.toList := by
      unfold Literal.skipMark
      split
      · rename_i rest parts
        exact absurd ⟨rest, parts⟩ marked
      · rfl
    rw [skipMark, if_neg begins, same, place_start]
    exact ⟨rfl, List.suffix_refl _⟩

def dialectOf (read : Value × Bool) : Value × Dialect := (read.1, if read.2 then .legacy else .json)

-- The premise stands behind the colon: before it, the `match` would be on the premise as well.
theorem atEnd_mirrors (source : String) (s : List Char) (read : Value × Bool) :
    s <:+ source.toList → Mirrors source s (fun _ => []) dialectOf
      (match s with
        | [] => return read
        | rest => throw ⟨.trailingCharacters, rest⟩)
      (if place source s < source.utf8ByteSize then fail source .trailingCharacters (place source s)
        else return dialectOf read) := by
  intro inText
  cases s with
  | nil =>
    rw [place_nil, if_neg (Nat.lt_irrefl _)]
    exact ⟨List.suffix_refl _, rfl⟩
  | cons c rest =>
    have moved := place_cons inText
    have some := c.utf8Size_pos
    have most := place_le source rest
    rw [if_pos (by omega)]
    exact .fail _ (List.suffix_refl _) inText

theorem skipSemicolon_eq (inText : s <:+ source.toList) :
    skipSemicolon source (place source s) = .ok (place source (Literal.skipSemicolon s)) ∧
      Literal.skipSemicolon s <:+ s := by
  have shorter := skipSpace_suffix s
  have spaced := skipSpace_skipSpace s
  rw [skipSemicolon, skipSpace_eq inText, Literal.skipSemicolon]
  replace inText := shorter.trans inText
  generalize Literal.skipSpace s = left at *
  rw [eat_eq inText, ok_bind]
  split
  · rename_i rest
    have found : Text.after? ";".toList (';' :: rest) = some rest := after?_eq_some.2 rfl
    rw [found, Option.map_some, Option.getD_some, skipSpace_eq (suffix_of_cons inText)]
    exact ⟨rfl, (skipSpace_suffix rest).trans ((List.suffix_cons _ _).trans shorter)⟩
  · rename_i other
    have none : Text.after? ";".toList left = none := after?_eq_none other
    rw [none, Option.map_none, Option.getD_none, skipSpace_eq inText, spaced]
    exact ⟨rfl, shorter⟩

theorem closeCall_found (inText : ')' :: rest <:+ source.toList) :
    closeCall source (place source (')' :: rest)) =
      .ok (place source (Literal.skipSemicolon rest)) := by
  have found : Text.after? ")".toList (')' :: rest) = some rest := after?_eq_some.2 rfl
  rw [closeCall, eat_eq inText, ok_bind, found]
  exact (skipSemicolon_eq (suffix_of_cons inText)).1

theorem closeCall_missing (inText : s <:+ source.toList) (missing : ∀ rest, s ≠ ')' :: rest) :
    closeCall source (place source s) =
      fail source .missingClosingParenthesis (place source s) := by
  have none : Text.after? ")".toList s = none := after?_eq_none missing
  rw [closeCall, eat_eq inText, ok_bind, none]
  rfl

theorem parse_mirrors (source : String) :
    Mirrors source source.toList (fun _ => []) dialectOf (takeText source.toList) (parse source) := by
  obtain ⟨marked, suffix⟩ := skipMark_eq source
  have begins := (skipSpace_suffix (Literal.skipMark source.toList)).trans suffix
  have reads := readValue_mirrors (Nat.le_refl source.toList.length) maxDepth
  have opening : callOpening = "Search.setIndex(".toList := rfl
  rw [takeText, takeTextWithin, parse, marked, skipSpace_eq suffix, opening, ← String.length_toList]
  generalize Literal.skipSpace (Literal.skipMark source.toList) = start at begins
  dsimp only
  rw [eat_eq begins, ok_bind]
  cases found : Text.after? "Search.setIndex(".toList start with
  | some inner =>
    have inside : inner <:+ source.toList :=
      List.IsSuffix.trans ⟨_, (after?_eq_some.1 found).symm⟩ begins
    refine .mono inside (.bind (reads.mirrors inner inside) fun read suffix => ?_)
    have shorter := skipSpace_suffix read.rest
    dsimp only
    rw [skipSpace_eq (suffix.trans inside)]
    refine .mono shorter ?_
    replace inside := shorter.trans (suffix.trans inside)
    generalize Literal.skipSpace read.rest = left at *
    split
    · rename_i rest
      have behind := (skipSemicolon_eq (suffix_of_cons inside)).2.trans (List.suffix_cons ')' rest)
      rw [Option.map_some, Option.isSome_some, if_pos rfl, closeCall_found inside, ok_bind]
      exact .mono behind (atEnd_mirrors source _ (read.value, read.bare) (behind.trans inside))
    · rename_i missing
      rw [Option.map_some, Option.isSome_some, if_pos rfl, closeCall_missing inside missing,
        fail_eq _ inside]
      exact ⟨List.suffix_refl _, rfl⟩
  | none =>
    refine .mono begins (.bind (reads.mirrors start begins) fun read suffix => ?_)
    have shorter := skipSpace_suffix read.rest
    dsimp only
    rw [skipSpace_eq (suffix.trans begins), Option.map_none, Option.isSome_none,
      if_neg Bool.false_ne_true]
    have inside := shorter.trans (suffix.trans begins)
    exact .mono shorter (atEnd_mirrors source _ (read.value, read.bare) inside)

/-- Reading by places gives what taking characters off gives, so no piece is ever taken out that does not
begin and end between characters. -/
theorem parse_eq (source : String) :
    parse source = (Literal.parse source).mapError Stop.reported := by
  have mirrors := parse_mirrors source
  rw [Literal.parse]
  cases taken : takeText source.toList with
  | ok read =>
    rw [taken] at mirrors
    exact mirrors.2
  | error fault =>
    rw [taken] at mirrors
    exact mirrors.2

end DocSearch.Literal.Bytes
