import DocSearch.Proofs.KeyMap
import DocSearch.Proofs.Literal.Quotation

/- Arrays and objects: the readers of a list of items and of a list of members take what the grammar
derives, whatever the items are. An item comes as a parameter, as it does in the readers. -/
namespace DocSearch.Literal

theorem numberEnd_nil : NumberEnd [] := by simp [NumberEnd]

theorem numberEnd_cons {c : Char} (rest : List Char)
    (ends : c.isDigit = false ∧ c ≠ '.' ∧ c ≠ 'e' ∧ c ≠ 'E') : NumberEnd (c :: rest) := by
  intro d member
  cases member
  exact ends

theorem Spaces.numberEnd {space rest : List Char} (spaces : Spaces space) (ends : NumberEnd rest) :
    NumberEnd (space ++ rest) := by
  cases space with
  | nil => exact ends
  | cons c space =>
    apply numberEnd_cons
    rcases spaces c (by simp) with rfl | rfl | rfl | rfl <;> decide

def Sound (item : List Char → Except Fault Reading) (spelled : List Char → Value → Bool → Prop) :
    Prop :=
  ∀ s read, item s = .ok read →
    ∃ before t, Spaces before ∧ spelled t read.value read.bare ∧ s = before ++ (t ++ read.rest)

def Complete (item : List Char → Except Fault Reading) (spelled : List Char → Value → Bool → Prop)
    (limit : Nat) : Prop :=
  ∀ before t rest v bare, Spaces before → spelled t v bare → t.length ≤ limit → NumberEnd rest →
    item (before ++ (t ++ rest)) = .ok ⟨v, bare, rest⟩

section
variable {item : List Char → Except Fault Reading} {spelled : List Char → Value → Bool → Prop}

theorem ItemsText.and {kept : Value → Prop} {s : List Char} {vs : List Value} {bare : Bool}
    (text : ItemsText spelled s vs bare) (all : ∀ v ∈ vs, kept v) :
    ItemsText (fun t v b => spelled t v b ∧ kept v) s vs bare := by
  induction text with
  | last before first after => exact .last before ⟨first, all _ (by simp)⟩ after
  | next before first after _ ih =>
    exact .next before ⟨first, all _ (by simp)⟩ after (ih fun v member => all v (by simp [member]))

theorem ItemsText.of_and {kept : Value → Prop} {s : List Char} {vs : List Value} {bare : Bool}
    (text : ItemsText (fun t v b => spelled t v b ∧ kept v) s vs bare) :
    ItemsText spelled s vs bare ∧ ∀ v ∈ vs, kept v := by
  induction text with
  | last before first after => exact ⟨.last before first.1 after, by simpa using first.2⟩
  | next before first after _ ih =>
    exact ⟨.next before first.1 after ih.1, List.forall_mem_cons.2 ⟨first.2, ih.2⟩⟩

theorem MembersText.and {kept : Value → Prop} {s : List Char} {members : List (String × Value)}
    {bare : Bool} (text : MembersText spelled s members bare) (all : ∀ m ∈ members, kept m.2) :
    MembersText (fun t v b => spelled t v b ∧ kept v) s members bare := by
  induction text with
  | last first =>
    obtain ⟨a, named, b, c, valued, d⟩ := first
    exact .last (.parts a named b c ⟨valued, (List.forall_mem_cons.1 all).1⟩ d)
  | next first _ ih =>
    obtain ⟨a, named, b, c, valued, d⟩ := first
    obtain ⟨here, later⟩ := List.forall_mem_cons.1 all
    exact .next (.parts a named b c ⟨valued, here⟩ d) (ih later)

theorem MembersText.of_and {kept : Value → Prop} {s : List Char} {members : List (String × Value)}
    {bare : Bool} (text : MembersText (fun t v b => spelled t v b ∧ kept v) s members bare) :
    MembersText spelled s members bare ∧ ∀ m ∈ members, kept m.2 := by
  induction text with
  | last first =>
    obtain ⟨a, named, b, c, valued, d⟩ := first
    exact ⟨.last (.parts a named b c valued.1 d), by simpa using valued.2⟩
  | next first _ ih =>
    obtain ⟨a, named, b, c, valued, d⟩ := first
    refine ⟨.next (.parts a named b c valued.1 d) ih.1, ?_⟩
    exact List.forall_mem_cons.2 ⟨valued.2, ih.2⟩

theorem ItemsText.all {kept : Value → Prop} {s : List Char} {vs : List Value} {bare : Bool}
    (text : ItemsText spelled s vs bare) (each : ∀ t v b, spelled t v b → kept v) :
    ∀ v ∈ vs, kept v := by
  induction text with
  | last _ first => exact List.forall_mem_singleton.2 (each _ _ _ first)
  | next _ first _ _ ih => exact List.forall_mem_cons.2 ⟨each _ _ _ first, ih⟩

theorem MembersText.all {kept : Value → Prop} {s : List Char} {members : List (String × Value)}
    {bare : Bool} (text : MembersText spelled s members bare)
    (each : ∀ t v b, spelled t v b → kept v) : ∀ m ∈ members, kept m.2 := by
  induction text with
  | last first =>
    obtain ⟨_, _, _, _, valued, _⟩ := first
    exact List.forall_mem_singleton.2 (each _ _ _ valued)
  | next first _ ih =>
    obtain ⟨_, _, _, _, valued, _⟩ := first
    exact List.forall_mem_cons.2 ⟨each _ _ _ valued, ih⟩

theorem takeItems_sound (sound : Sound item spelled) {fuel : Nat} {s : List Char}
    {items : List Value}
    {bare : Bool} {read : Reading} (taken : takeItems item bare items fuel s = .ok read) :
    ∃ t vs more, ItemsText spelled t vs more ∧ s = t ++ ']' :: read.rest ∧
      read.value = .array (items.reverse ++ vs) ∧ read.bare = (bare || more) := by
  induction fuel generalizing s items bare with
  | zero => cases taken
  | succ fuel ih =>
    obtain ⟨first, readFirst, readOn⟩ := bind_eq_ok.1 taken
    obtain ⟨before, t, space, firstText, rfl⟩ := sound s first readFirst
    obtain ⟨after, spaceAfter, parted⟩ := exists_spaces first.rest
    dsimp only at readOn
    split at readOn
    · rename_i rest found
      obtain ⟨tail, vs, more, tailText, rfl, value, flag⟩ := ih readOn
      refine ⟨before ++ (t ++ (after ++ ',' :: tail)), first.value :: vs, first.bare || more,
        ?_, ?_, ?_, ?_⟩
      · exact .next space firstText spaceAfter tailText
      · rw [parted, found]; simp
      · rw [value]; simp
      · rw [flag, Bool.or_assoc]
    · rename_i rest found
      cases pure_eq_ok.1 readOn
      refine ⟨before ++ (t ++ after), [first.value], first.bare, .last space firstText spaceAfter,
        ?_, ?_, rfl⟩
      · rw [parted, found]; simp
      · simp
    · cases readOn

theorem takeItems_complete {limit : Nat} (complete : Complete item spelled limit) {t : List Char}
    {vs : List Value} {more : Bool} (text : ItemsText spelled t vs more) (short : t.length ≤ limit)
    {fuel : Nat} (enough : t.length < fuel) (items : List Value) (bare : Bool) (rest : List Char) :
    takeItems item bare items fuel (t ++ ']' :: rest) =
      .ok ⟨.array (items.reverse ++ vs), bare || more, rest⟩ := by
  induction text generalizing fuel items bare with
  | @last before s after v first space firstText spaceAfter =>
    obtain ⟨fuel, rfl⟩ := Nat.exists_eq_add_one_of_ne_zero (Nat.ne_zero_of_lt enough)
    simp only [List.length_append] at short
    have ends : NumberEnd (after ++ ']' :: rest) :=
      spaceAfter.numberEnd (numberEnd_cons rest (by decide))
    have readFirst :=
      complete before s (after ++ ']' :: rest) v first space firstText (by omega) ends
    have close : skipSpace (after ++ ']' :: rest) = ']' :: rest :=
      skipSpace_cons spaceAfter _ rfl
    simp only [List.append_assoc, takeItems, readFirst, bind, Except.bind, close, pure, Except.pure,
      List.reverse_cons]
  | @next before s after tail v vs first more space firstText spaceAfter tailText ih =>
    obtain ⟨fuel, rfl⟩ := Nat.exists_eq_add_one_of_ne_zero (Nat.ne_zero_of_lt enough)
    simp only [List.length_append, List.length_cons] at short enough
    have ends : NumberEnd (after ++ ',' :: (tail ++ ']' :: rest)) :=
      spaceAfter.numberEnd (numberEnd_cons _ (by decide))
    have readFirst := complete before s (after ++ ',' :: (tail ++ ']' :: rest)) v first space
      firstText (by omega) ends
    have comma : skipSpace (after ++ ',' :: (tail ++ ']' :: rest)) = ',' :: (tail ++ ']' :: rest) :=
      skipSpace_cons spaceAfter _ rfl
    have readTail := ih (by omega) (by omega : tail.length < fuel) (v :: items) (bare || first)
    simp only [List.append_assoc, List.cons_append, takeItems, readFirst, bind, Except.bind, comma,
      readTail, List.reverse_cons, List.nil_append, Bool.or_assoc]

theorem enter_of_mem {key : String} {value : Value} {members : List (String × Value)}
    (descending : Ascending members.reverse) (old : key ∈ members.map Prod.fst) :
    enter key value members = none := by
  rw [Ascending, List.pairwise_reverse] at descending
  induction members with
  | nil => simp at old
  | cons head tail ih =>
    obtain ⟨k, v⟩ := head
    obtain ⟨first, later⟩ := List.pairwise_cons.1 descending
    rcases List.mem_cons.1 old with rfl | older
    · simp only [enter, String.lt_irrefl, if_false, if_true]
    · obtain ⟨member, inTail, rfl⟩ := List.mem_map.1 older
      have below : member.1 < k := first member inTail
      have notAbove : ¬ k < member.1 :=
        fun above => String.lt_irrefl _ (String.lt_trans below above)
      have different : k ≠ member.1 := fun same => String.lt_irrefl k (same ▸ below)
      simp [enter, notAbove, different, ih later older]

theorem enter_of_not_mem {key : String} (value : Value) {members : List (String × Value)}
    (descending : Ascending members.reverse) (new : key ∉ members.map Prod.fst) :
    ∃ more, enter key value members = some more ∧ Ascending more.reverse ∧
      more.Perm ((key, value) :: members) := by
  simp only [Ascending, List.pairwise_reverse] at descending ⊢
  induction members with
  | nil => exact ⟨[(key, value)], rfl, by simp, List.Perm.refl _⟩
  | cons head tail ih =>
    obtain ⟨k, v⟩ := head
    obtain ⟨first, later⟩ := List.pairwise_cons.1 descending
    simp only [List.map_cons, List.mem_cons, not_or] at new
    by_cases above : k < key
    · refine ⟨_, by rw [enter, if_pos above], List.pairwise_cons.2 ⟨?_, descending⟩,
        List.Perm.refl _⟩
      intro entry member
      rcases List.mem_cons.1 member with rfl | inTail
      · exact above
      · exact String.lt_trans (first entry inTail) above
    · obtain ⟨more, entered, sorted, perm⟩ := ih new.2 later
      refine ⟨(k, v) :: more, ?_, List.pairwise_cons.2 ⟨?_, sorted⟩, ?_⟩
      · simp [enter, above, Ne.symm new.1, entered]
      · intro entry member
        rcases List.mem_cons.1 (perm.mem_iff.1 member) with rfl | inTail
        · exact Std.lt_of_le_of_ne (String.not_lt.1 above) new.1
        · exact first entry inTail
      · exact (perm.cons _).trans (List.Perm.swap _ _ _)

theorem enter_some {key : String} {value : Value} {members entered : List (String × Value)}
    (descending : Ascending members.reverse) (enters : enter key value members = some entered) :
    key ∉ members.map Prod.fst ∧ Ascending entered.reverse ∧
      entered.Perm ((key, value) :: members) := by
  have new : key ∉ members.map Prod.fst := fun old => by
    rw [enter_of_mem descending old] at enters
    cases enters
  obtain ⟨more, same, sorted, perm⟩ := enter_of_not_mem value descending new
  cases same.symm.trans enters
  exact ⟨new, sorted, perm⟩

theorem takeMembers_round {fuel : Nat} {s : List Char} {members : List (String × Value)}
    {bare : Bool} {read : Reading} (taken : takeMembers item bare members (fuel + 1) s = .ok read) :
    ∃ key keyBare afterKey afterColon first entered,
      takeKey (skipSpace s) = .ok (key, keyBare, afterKey) ∧
      skipSpace afterKey = ':' :: afterColon ∧
      item afterColon = .ok first ∧
      enter (String.ofList key) first.value members = some entered ∧
      ((∃ rest, skipSpace first.rest = ',' :: rest ∧
          takeMembers item (bare || keyBare || first.bare) entered fuel rest = .ok read) ∨
        ∃ rest, skipSpace first.rest = '\x7d' :: rest ∧
          read = ⟨.object entered.reverse, bare || keyBare || first.bare, rest⟩) := by
  obtain ⟨⟨key, keyBare, afterKey⟩, readKey, readOn⟩ := bind_eq_ok.1 taken
  dsimp only at readOn
  split at readOn
  · rename_i afterColon colon
    obtain ⟨first, readFirst, readOn⟩ := bind_eq_ok.1 readOn
    cases enters : enter (String.ofList key) first.value members with
    | none =>
      rw [enters] at readOn
      cases readOn
    | some entered =>
      rw [enters] at readOn
      refine ⟨key, keyBare, afterKey, afterColon, first, entered, readKey, colon, readFirst,
        enters, ?_⟩
      dsimp only at readOn
      split at readOn
      · exact Or.inl ⟨_, ‹_›, readOn⟩
      · exact Or.inr ⟨_, ‹_›, (pure_eq_ok.1 readOn).symm⟩
      · cases readOn
  · cases readOn

theorem takeMembers_sound (sound : Sound item spelled) {fuel : Nat} {s : List Char}
    {members : List (String × Value)} (descending : Ascending members.reverse) {bare : Bool}
    {read : Reading} (taken : takeMembers item bare members fuel s = .ok read) :
    ∃ t written more sorted, MembersText spelled t written more ∧ s = t ++ '\x7d' :: read.rest ∧
      read.value = .object sorted ∧ read.bare = (bare || more) ∧ Ascending sorted ∧
      sorted.Perm (members ++ written) := by
  induction fuel generalizing s members bare with
  | zero => cases taken
  | succ fuel ih =>
    obtain ⟨key, keyBare, afterKey, afterColon, first, entered, readKey, colon, readFirst,
      enters, ends⟩ :=
      takeMembers_round taken
    obtain ⟨before, spaceBefore, parted⟩ := exists_spaces s
    obtain ⟨k, named, start⟩ := takeKey_sound readKey
    obtain ⟨space, spaceAfterKey, partedKey⟩ := exists_spaces afterKey
    obtain ⟨beforeValue, t, spaceBeforeValue, firstText, partedColon⟩ :=
      sound afterColon first readFirst
    obtain ⟨after, spaceAfter, partedValue⟩ := exists_spaces first.rest
    have member :=
      MemberText.parts spaceBefore named spaceAfterKey spaceBeforeValue firstText spaceAfter
    have whole : s = before ++ (k ++ (space ++ ':' :: (beforeValue ++ (t ++ after)))) ++
        skipSpace first.rest := by
      rw [parted, start, partedKey, colon, partedColon, partedValue]
      simp [← partedValue]
    obtain ⟨new, sorted, perm⟩ := enter_some descending enters
    rcases ends with ⟨rest, comma, readOn⟩ | ⟨rest, close, rfl⟩
    · obtain ⟨tail, written, more, final, tailText, rfl, value, flag, ascending, finalPerm⟩ :=
        ih sorted readOn
      refine ⟨_, _, _, final, .next member tailText, ?_, value, ?_, ascending, ?_⟩
      · rw [whole, comma]; simp
      · simp only [flag, Bool.or_assoc]
      · exact finalPerm.trans ((perm.append_right written).trans List.perm_middle.symm)
    · refine ⟨_, _, _, entered.reverse, .last member, ?_, rfl, ?_, sorted, ?_⟩
      · rw [whole, close]
      · rw [Bool.or_assoc]
      · refine (List.reverse_perm entered).trans (perm.trans ?_)
        exact (List.perm_append_singleton _ _).symm

theorem KeyText.head {k : List Char} {key : String} {bare : Bool} (named : KeyText k key bare) :
    ∃ c rest, k = c :: rest ∧ isSpace c = false ∧ c ≠ '\x7d' := by
  cases named with
  | quoted => exact ⟨_, _, rfl, by decide⟩
  | @bare c s first =>
    have others : ∀ d ∈ [' ', '\t', '\n', '\r', '\x7d'], ¬ IsNameStart d := by simp [IsNameStart]
    refine ⟨c, s, rfl, ?_, ?_⟩
    · by_contra space
      rcases (isSpace_iff c).1 (by simpa using space) with rfl | rfl | rfl | rfl
      all_goals exact others _ (by simp) first
    · rintro rfl
      exact others _ (by simp) first

theorem KeyText.skipSpace {k : List Char} {key : String} {bare : Bool} (named : KeyText k key bare)
    {before : List Char} (space : Spaces before) (rest : List Char) :
    skipSpace (before ++ (k ++ rest)) = k ++ rest := by
  obtain ⟨c, more, rfl, stop, _⟩ := named.head
  exact skipSpace_cons space _ stop

theorem Spaces.nameEnd {space : List Char} (spaces : Spaces space) (rest : List Char) :
    ∀ c ∈ (space ++ ':' :: rest).head?, ¬ IsNameRest c := by
  intro c member
  cases space with
  | nil =>
    cases member
    simp [IsNameRest]
  | cons d space =>
    cases member
    rcases spaces c (by simp) with rfl | rfl | rfl | rfl <;> simp [IsNameRest]

theorem takeMembers_member {limit : Nat} (complete : Complete item spelled limit) {s : List Char}
    {key : String} {v : Value} {flag : Bool} (text : MemberText spelled s (key, v) flag)
    (short : s.length ≤ limit) {members entered : List (String × Value)}
    (enters : enter key v members = some entered) (fuel : Nat) (bare : Bool) {close : Char}
    (rest : List Char) (closes : close = ',' ∨ close = '\x7d') :
    takeMembers item bare members (fuel + 1) (s ++ close :: rest) =
      if close = ',' then takeMembers item (bare || flag) entered fuel rest
      else .ok ⟨.object entered.reverse, bare || flag, rest⟩ := by
  cases text with
  | @parts a k b c t d _ _ keyBare first spaceA named spaceB spaceC valued spaceD =>
    simp only [List.length_append, List.length_cons] at short
    have start : skipSpace (a ++ (k ++ (b ++ ':' :: (c ++ (t ++ (d ++ close :: rest)))))) =
        k ++ (b ++ ':' :: (c ++ (t ++ (d ++ close :: rest)))) :=
      named.skipSpace spaceA _
    have readKey := takeKey_complete named (spaceB.nameEnd (c ++ (t ++ (d ++ close :: rest))))
    have colon : skipSpace (b ++ ':' :: (c ++ (t ++ (d ++ close :: rest)))) =
        ':' :: (c ++ (t ++ (d ++ close :: rest))) :=
      skipSpace_cons spaceB _ rfl
    have ends : NumberEnd (d ++ close :: rest) := by
      apply spaceD.numberEnd
      rcases closes with rfl | rfl
      · exact numberEnd_cons rest (by decide)
      · exact numberEnd_cons rest (by decide)
    have readValue := complete c t (d ++ close :: rest) v first spaceC valued (by omega) ends
    have stop : skipSpace (d ++ close :: rest) = close :: rest := by
      rcases closes with rfl | rfl <;> exact skipSpace_cons spaceD rest rfl
    simp only [List.append_assoc, List.cons_append, takeMembers, start, readKey, colon, readValue,
      String.ofList_toList, enters, stop, bind, Except.bind, ← Bool.or_assoc]
    rcases closes with rfl | rfl <;> rfl

theorem takeMembers_complete {limit : Nat} (complete : Complete item spelled limit) {t : List Char}
    {written : List (String × Value)} {more : Bool} (text : MembersText spelled t written more)
    (short : t.length ≤ limit) {fuel : Nat} (enough : t.length < fuel)
    {members sorted : List (String × Value)} (descending : Ascending members.reverse)
    (ascending : Ascending sorted) (perm : sorted.Perm (members ++ written)) (bare : Bool)
    (rest : List Char) :
    takeMembers item bare members fuel (t ++ '\x7d' :: rest) =
      .ok ⟨.object sorted, bare || more, rest⟩ := by
  induction text generalizing fuel members bare with
  | @last s member first text =>
    obtain ⟨key, v⟩ := member
    obtain ⟨fuel, rfl⟩ := Nat.exists_eq_add_one_of_ne_zero (Nat.ne_zero_of_lt enough)
    obtain ⟨entered, enters, enteredAscending, enteredPerm⟩ :=
      enter_of_not_mem v descending (ascending.key_new perm)
    have same : entered.reverse = sorted := by
      refine enteredAscending.eq_of_perm ascending ((List.reverse_perm entered).trans ?_)
      exact enteredPerm.trans ((List.perm_append_singleton _ _).symm.trans perm.symm)
    rw [takeMembers_member complete text short enters fuel bare rest (Or.inr rfl),
      if_neg (by decide), same]
  | @next s tail member written first more text tailText ih =>
    obtain ⟨key, v⟩ := member
    obtain ⟨fuel, rfl⟩ := Nat.exists_eq_add_one_of_ne_zero (Nat.ne_zero_of_lt enough)
    simp only [List.length_append, List.length_cons] at short enough
    obtain ⟨entered, enters, enteredAscending, enteredPerm⟩ :=
      enter_of_not_mem v descending (ascending.key_new perm)
    have enteredAll : (entered ++ written).Perm (members ++ (key, v) :: written) :=
      (enteredPerm.append_right written).trans List.perm_middle.symm
    rw [List.append_assoc, List.cons_append,
      takeMembers_member complete text (by omega) enters fuel bare _ (Or.inl rfl), if_pos rfl,
      ih (by omega) (by omega) enteredAscending (perm.trans enteredAll.symm), Bool.or_assoc]

end
end DocSearch.Literal
