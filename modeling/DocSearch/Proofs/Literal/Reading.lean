import DocSearch.Proofs.Literal.Containers
import DocSearch.Proofs.Literal.Nesting

/- Reading index text is deciding the grammar: the reader accepts the texts that the grammar derives
with at most 128 containers inside one another, and returns the value that is derived. -/
namespace DocSearch.Literal

/-- Values up to a depth, as the grammar spells them. -/
def ValueWithin (depth : Nat) (t : List Char) (v : Value) (bare : Bool) : Prop :=
  ValueText t v bare ∧ v.depth ≤ depth

theorem ValueText.array_within {depth : Nat} {s : List Char} {vs : List Value} {bare : Bool}
    (items : ItemsText (ValueWithin depth) s vs bare) :
    ValueWithin (depth + 1) ('[' :: (s ++ [']'])) (.array vs) bare := by
  obtain ⟨text, bounded⟩ := ItemsText.of_and items
  exact ⟨.array text, Nat.succ_le_succ (Value.depthOfItems_le.2 bounded)⟩

theorem ValueText.object_within {depth : Nat} {s : List Char}
    {written sorted : List (String × Value)}
    {bare : Bool} (members : MembersText (ValueWithin depth) s written bare)
    (ascending : Ascending sorted) (perm : sorted.Perm written) :
    ValueWithin (depth + 1) ('\x7b' :: (s ++ ['\x7d'])) (.object sorted) bare := by
  obtain ⟨text, bounded⟩ := MembersText.of_and members
  have distinct := (perm.map Prod.fst).nodup_iff.1 ascending.keys_nodup
  have derived := ValueText.object text distinct
  rw [KeyMap.entries_ofList_of_perm ascending perm] at derived
  refine ⟨derived, Nat.succ_le_succ (Value.depthOfMembers_le.2 ?_)⟩
  intro member inSorted
  exact bounded member (perm.mem_iff.1 inSorted)

theorem ValueText.ordered {t : List Char} {v : Value} {bare : Bool} (text : ValueText t v bare) :
    v.Ordered := by
  generalize limit : v.depth = depth
  induction depth using Nat.strongRecOn generalizing t v bare with
  | ind depth ih =>
    subst limit
    have inner {w : Value} {s : List Char} {b : Bool} (less : w.depth < v.depth)
        (spelled : ValueText s w b) :
        w.Ordered :=
      ih _ less spelled rfl
    cases text with
    | null | yes | no | number | string | emptyArray => trivial
    | emptyObject => exact ⟨List.Pairwise.nil, trivial⟩
    | @array s items bare text =>
      have less := Value.depthOfItems_le.1 (Nat.le_refl (Value.depthOfItems items))
      refine Value.orderedItems_iff.2 ((text.and less).all fun t w b within => ?_)
      exact inner (Nat.lt_succ_of_le within.2) within.1
    | @object s written bare text distinct =>
      have perm := KeyMap.entries_ofList_perm distinct
      have less := Value.depthOfMembers_le.1
        (Nat.le_refl (Value.depthOfMembers (KeyMap.ofList written).entries))
      have bounded : ∀ m ∈ written,
          m.2.depth < (Value.object (KeyMap.ofList written).entries).depth :=
        fun m member => Nat.lt_succ_of_le (less m (perm.mem_iff.2 member))
      have inside := (text.and bounded).all fun t w b within => inner within.2 within.1
      refine ⟨(KeyMap.ofList written).ascending, Value.orderedMembers_iff.2 fun m member => ?_⟩
      exact inside m (perm.mem_iff.1 member)

theorem takeArray_sound {item : List Char → Except Fault Reading} {depth : Nat}
    (sound : Sound item (ValueWithin depth)) {fuel : Nat} {s : List Char} {read : Reading}
    (taken : takeArray item fuel s = .ok read) :
    ∃ t, ValueWithin (depth + 1) ('[' :: (t ++ [']'])) read.value read.bare ∧
      s = t ++ ']' :: read.rest := by
  obtain ⟨before, space, parted⟩ := exists_spaces s
  simp only [takeArray] at taken
  split at taken
  · rename_i rest close
    cases taken
    exact ⟨before, ⟨.emptyArray space, Nat.succ_le_succ (Nat.zero_le _)⟩, close ▸ parted⟩
  · obtain ⟨t, vs, bare, text, whole, value, flag⟩ := takeItems_sound sound taken
    refine ⟨t, ?_, whole⟩
    rw [value, flag]
    exact ValueText.array_within text

theorem takeObject_sound {item : List Char → Except Fault Reading} {depth : Nat}
    (sound : Sound item (ValueWithin depth)) {fuel : Nat} {s : List Char} {read : Reading}
    (taken : takeObject item fuel s = .ok read) :
    ∃ t, ValueWithin (depth + 1) ('\x7b' :: (t ++ ['\x7d'])) read.value read.bare ∧
      s = t ++ '\x7d' :: read.rest := by
  obtain ⟨before, space, parted⟩ := exists_spaces s
  simp only [takeObject] at taken
  split at taken
  · rename_i rest close
    cases taken
    exact ⟨before, ⟨.emptyObject space, Nat.succ_le_succ (Nat.zero_le _)⟩, close ▸ parted⟩
  · obtain ⟨t, written, bare, sorted, text, whole, value, flag, ascending, perm⟩ :=
      takeMembers_sound sound (by simp [Ascending]) taken
    refine ⟨t, ?_, whole⟩
    rw [value, flag]
    exact ValueText.object_within text ascending perm

theorem takeValue_sound (fuel depth : Nat) : Sound (takeValue fuel depth) (ValueWithin depth) := by
  induction depth using Nat.strongRecOn with
  | ind depth ih =>
    intro s read taken
    obtain ⟨before, space, parted⟩ := exists_spaces s
    suffices found : ∃ t, ValueWithin depth t read.value read.bare ∧ skipSpace s = t ++ read.rest by
      obtain ⟨t, text, start⟩ := found
      exact ⟨before, t, space, text, start ▸ parted⟩
    rw [takeValue] at taken
    split at taken
    · cases taken
    · rename_i rest start
      cases depth with
      | zero => cases taken
      | succ depth =>
        obtain ⟨t, text, whole⟩ := takeObject_sound (ih depth (Nat.lt_succ_self depth)) taken
        exact ⟨_, text, by rw [start, whole]; simp⟩
    · rename_i rest start
      cases depth with
      | zero => cases taken
      | succ depth =>
        obtain ⟨t, text, whole⟩ := takeArray_sound (ih depth (Nat.lt_succ_self depth)) taken
        exact ⟨_, text, by rw [start, whole]; simp⟩
    · rename_i rest start
      obtain ⟨⟨text, after⟩, readText, same⟩ := map_eq_ok.1 taken
      cases same
      obtain ⟨t, body, whole⟩ := takeString_sound readText
      exact ⟨_, ⟨.string body, Nat.zero_le _⟩, by rw [start, whole]; simp⟩
    · rename_i rest start
      cases taken
      exact ⟨_, ⟨.yes, Nat.zero_le _⟩, start⟩
    · rename_i rest start
      cases taken
      exact ⟨_, ⟨.no, Nat.zero_le _⟩, start⟩
    · rename_i rest start
      cases taken
      exact ⟨_, ⟨.null, Nat.zero_le _⟩, start⟩
    · rename_i c rest _ _ _ _ _ _ start
      split at taken
      · obtain ⟨⟨n, after⟩, readNumber, same⟩ := map_eq_ok.1 taken
        cases same
        obtain ⟨t, token, spelled, meant, whole⟩ := takeNumber_sound readNumber
        exact ⟨t, ⟨.number spelled meant, Nat.zero_le _⟩, start.trans whole⟩
      · cases taken

theorem NumberText.head {t : List Char} {token : NumberToken} (spelled : NumberText t token) :
    ∃ c rest, t = c :: rest ∧ (c = '-' ∨ c.isDigit = true) := by
  obtain ⟨valid, _, _⟩ := spelled
  rename_i negative whole f e _ _ _ _
  cases negative with
  | true => exact ⟨'-', whole ++ (f ++ e), rfl, Or.inl rfl⟩
  | false =>
    obtain ⟨d, more, rfl, digit⟩ := valid.head
    exact ⟨d, more ++ (f ++ e), rfl, Or.inr digit⟩

def startsValue (c : Char) : Bool :=
  c.isDigit || ['-', '"', '[', '\x7b', 't', 'f', 'n'].contains c

theorem startsValue_ne {c d : Char} (start : startsValue c = true) (other : startsValue d = false) :
    c ≠ d := by
  rintro rfl
  rw [start] at other
  cases other

theorem startsValue_not_space {c : Char} (start : startsValue c = true) : isSpace c = false := by
  by_contra space
  rcases (isSpace_iff c).1 (by simpa using space) with rfl | rfl | rfl | rfl
  all_goals exact startsValue_ne start (by decide) rfl

theorem startsValue_number {c : Char} (start : c = '-' ∨ c.isDigit = true) :
    startsValue c = true := by
  rcases start with rfl | digit
  · rfl
  · rw [startsValue, digit, Bool.true_or]

theorem ValueText.head {t : List Char} {v : Value} {bare : Bool} (text : ValueText t v bare) :
    ∃ c rest, t = c :: rest ∧ startsValue c = true := by
  cases text with
  | number spelled =>
    obtain ⟨c, rest, rfl, start⟩ := spelled.head
    exact ⟨c, rest, rfl, startsValue_number start⟩
  | null | yes | no | string | emptyArray | array | emptyObject | object => exact ⟨_, _, rfl, rfl⟩

theorem ValueText.skipSpace {t : List Char} {v : Value} {bare : Bool} (text : ValueText t v bare)
    {before : List Char} (space : Spaces before) (rest : List Char) :
    skipSpace (before ++ (t ++ rest)) = t ++ rest := by
  obtain ⟨c, more, rfl, start⟩ := text.head
  exact skipSpace_cons space _ (startsValue_not_space start)

theorem takeArray_complete {item : List Char → Except Fault Reading} {limit depth : Nat}
    (complete : Complete item (ValueWithin depth) limit) {s : List Char} {vs : List Value}
    {bare : Bool} (text : ItemsText ValueText s vs bare) (bounded : ∀ v ∈ vs, v.depth ≤ depth)
    (short : s.length < limit) (rest : List Char) :
    takeArray item limit (s ++ ']' :: rest) = .ok ⟨.array vs, bare, rest⟩ := by
  have read :=
    takeItems_complete complete (text.and bounded) (Nat.le_of_lt short) short [] false rest
  have start : ∃ c tail, skipSpace (s ++ ']' :: rest) = c :: tail ∧ startsValue c = true := by
    cases text with
    | last space first | next space first =>
      rw [List.append_assoc, List.append_assoc, first.skipSpace space]
      obtain ⟨c, tail, rfl, start⟩ := first.head
      exact ⟨c, _, rfl, start⟩
  obtain ⟨c, tail, same, start⟩ := start
  simp only [takeArray, same]
  split
  · rename_i close
    cases close
    exact absurd rfl (startsValue_ne start (by decide))
  · exact read

theorem takeObject_complete {item : List Char → Except Fault Reading} {limit depth : Nat}
    (complete : Complete item (ValueWithin depth) limit) {s : List Char}
    {written sorted : List (String × Value)} {bare : Bool}
    (text : MembersText ValueText s written bare)
    (bounded : ∀ m ∈ written, m.2.depth ≤ depth) (ascending : Ascending sorted)
    (perm : sorted.Perm written) (short : s.length < limit) (rest : List Char) :
    takeObject item limit (s ++ '\x7d' :: rest) = .ok ⟨.object sorted, bare, rest⟩ := by
  have first : Ascending ([] : List (String × Value)).reverse := by simp [Ascending]
  have read := takeMembers_complete complete (text.and bounded) (Nat.le_of_lt short) short first
    ascending perm false rest
  have start : ∃ c tail, skipSpace (s ++ '\x7d' :: rest) = c :: tail ∧ c ≠ '\x7d' := by
    cases text with
    | last first | next first =>
      obtain ⟨space, named⟩ := first
      simp only [List.append_assoc]
      rw [named.skipSpace space]
      obtain ⟨c, tail, rfl, _, different⟩ := named.head
      exact ⟨c, _, rfl, different⟩
  obtain ⟨c, tail, same, different⟩ := start
  simp only [takeObject, same]
  split
  · rename_i close
    cases close
    exact absurd rfl different
  · exact read

theorem takeValue_number {limit depth : Nat} {s rest : List Char} {c : Char}
    (start : c = '-' ∨ c.isDigit = true) (front : skipSpace s = c :: rest) :
    takeValue limit depth s =
      (takeNumber (c :: rest)).map fun (n, after) => ⟨.number n, false, after⟩ := by
  have other : ∀ d ∈ ['\x7b', '[', '"', 't', 'f', 'n'], c ≠ d := by
    rintro d member rfl
    rcases start with rfl | digit
    · revert member
      decide
    · revert digit
      simp only [List.mem_cons, List.not_mem_nil, or_false] at member
      rcases member with rfl | rfl | rfl | rfl | rfl | rfl <;> decide
  have reads : (decide (c = '-') || c.isDigit) = true := by simpa using start
  rw [takeValue, front]
  split
  · rename_i same
    cases same
  -- One case for each of the six other ways in which a value may begin.
  iterate 6
    · rename_i same
      exact absurd (List.cons.inj same).1 (other _ (by simp))
  · rename_i same
    obtain ⟨rfl, rfl⟩ := List.cons.inj same
    exact if_pos reads

theorem takeValue_complete (limit depth : Nat) :
    Complete (takeValue limit depth) (ValueWithin depth) limit := by
  induction depth using Nat.strongRecOn with
  | ind depth ih =>
    intro before t rest v bare space text short ends
    obtain ⟨text, bounded⟩ := text
    have front := text.skipSpace space rest
    cases text with
    | number spelled meant =>
      obtain ⟨c, more, rfl, start⟩ := spelled.head
      have readNumber := takeNumber_complete spelled meant ends
      rw [List.cons_append] at front readNumber ⊢
      rw [takeValue_number start front, readNumber]
      rfl
    | null | yes | no => rw [takeValue, front]; rfl
    | string body =>
      rw [takeValue, front, List.cons_append, List.append_assoc]
      simp [takeString_complete body rest, Except.map]
    | emptyArray inner =>
      cases depth with
      | zero => cases bounded
      | succ depth =>
        rw [takeValue, front, List.cons_append, List.append_assoc]
        have close : skipSpace (_ ++ ']' :: rest) = ']' :: rest := skipSpace_cons inner rest rfl
        simp only [takeArray, List.cons_append, List.nil_append, close]
    | array items =>
      cases depth with
      | zero => cases bounded
      | succ depth =>
        have inside := Value.depthOfItems_le.1 (Nat.le_of_succ_le_succ bounded)
        simp only [List.length_cons, List.length_append] at short
        rw [takeValue, front, List.cons_append, List.append_assoc]
        exact takeArray_complete (ih depth (Nat.lt_succ_self depth)) items inside (by omega) rest
    | emptyObject inner =>
      cases depth with
      | zero => cases bounded
      | succ depth =>
        rw [takeValue, front, List.cons_append, List.append_assoc]
        have close : skipSpace (_ ++ '\x7d' :: rest) = '\x7d' :: rest :=
          skipSpace_cons inner rest rfl
        simp only [takeObject, List.cons_append, List.nil_append, close]
    | object members distinct =>
      cases depth with
      | zero => cases bounded
      | succ depth =>
        have inside := Value.depthOfMembers_le.1 (Nat.le_of_succ_le_succ bounded)
        simp only [List.length_cons, List.length_append] at short
        rw [takeValue, front, List.cons_append, List.append_assoc]
        have perm := KeyMap.entries_ofList_perm distinct
        exact takeObject_complete (ih depth (Nat.lt_succ_self depth)) members
          (fun m member => inside m (perm.mem_iff.2 member)) (KeyMap.ofList _).ascending perm
          (by omega) rest

end DocSearch.Literal
