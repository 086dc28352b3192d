import DocSearch.Proofs.Index.Fields
import DocSearch.Proofs.Literal.Nesting

/- Reading a value as a search index loses nothing: each decoder keeps all that its encoder needs to
give the value back. -/
namespace DocSearch

theorem Integer.ofUInt64_of_toUInt64? {m : Integer} {n : UInt64} (read : m.toUInt64? = some n) :
    Integer.ofUInt64 n = m := by
  obtain ⟨val, inRange⟩ := m
  unfold Integer.toUInt64? at read
  split at read
  · rename_i nonneg
    cases read
    have nonneg : 0 ≤ val := nonneg
    have small : val.toNat < 2 ^ 64 := by omega
    have same : ((UInt64.ofNat val.toNat).toNat : Int) = val := by
      rw [UInt64.toNat_ofNat_of_lt' small]
      omega
    simp only [Integer.ofUInt64, same]
  · cases read

theorem Integer.ofInt64_of_toInt64? {m : Integer} {n : Int64} (read : m.toInt64? = some n) :
    Integer.ofInt64 n = m := by
  obtain ⟨val, inRange⟩ := m
  unfold Integer.toInt64? at read
  split at read
  · rename_i small
    cases read
    have same : (Int64.ofInt val).toInt = val := Int64.toInt_ofInt_of_le inRange.1 small
    simp only [Integer.ofInt64, same]
  · cases read

/-- What is decoded encodes to the value that it was decoded from. -/
def Decoder.Lossless {α : Type} (decode : Decoder α) (encode : α → Value) : Prop :=
  ∀ path v a, v.Ordered → decode path v = .ok a → encode a = v

namespace Decoder

theorem ofOption_eq_ok {α : Type} {path : Path} {expected : Shape} {found : Option α} {a : α} :
    ofOption path expected found = .ok a ↔ found = some a := by
  cases found with
  | none => simp [ofOption, fail]
  | some b => simp [ofOption]

theorem docNumber_lossless : Lossless docNumber Value.ofUInt64 := by
  intro path v n _ decoded
  have read := ofOption_eq_ok.1 decoded
  unfold Value.toUInt64? at read
  split at read
  · rw [Value.ofUInt64, Integer.ofUInt64_of_toUInt64? read]
  · cases read

theorem integer_lossless (expected : Shape) : Lossless (integer expected) Value.ofInt64 := by
  intro path v n _ decoded
  have read := ofOption_eq_ok.1 decoded
  unfold Value.toInt64? at read
  split at read
  · rw [Value.ofInt64, Integer.ofInt64_of_toInt64? read]
  · cases read

theorem string_lossless : Lossless string Value.string := by
  intro path v s _ decoded
  have read := ofOption_eq_ok.1 decoded
  unfold Value.toString? at read
  split at read
  · cases read
    rfl
  · cases read

section
variable {α : Type} {encode : α → Value}

theorem items_lossless {decode : Decoder α} (lossless : Lossless decode encode) {path : Path}
    {i : Nat} {values : List Value} (ordered : ∀ v ∈ values, v.Ordered) {as : List α}
    (decoded : items decode path i values = .ok as) : as.map encode = values := by
  induction values generalizing i as with
  | nil =>
    cases decoded
    rfl
  | cons v values ih =>
    obtain ⟨orderedFirst, orderedRest⟩ := List.forall_mem_cons.1 ordered
    obtain ⟨a, first, decoded⟩ := bind_eq_ok.1 decoded
    obtain ⟨rest, later, decoded⟩ := bind_eq_ok.1 decoded
    cases pure_eq_ok.1 decoded
    rw [List.map_cons, lossless _ v a orderedFirst first, ih orderedRest later]

theorem members_lossless {decode : String → Decoder α}
    (lossless : ∀ key, Lossless (decode key) encode)
    {path : Path} {values : List (String × Value)} (ordered : ∀ v ∈ values, v.2.Ordered)
    {entries : List (String × α)} (decoded : members decode path values = .ok entries) :
    entries.map (fun entry => (entry.1, encode entry.2)) = values := by
  induction values generalizing entries with
  | nil =>
    cases decoded
    rfl
  | cons head values ih =>
    obtain ⟨key, v⟩ := head
    obtain ⟨orderedFirst, orderedRest⟩ := List.forall_mem_cons.1 ordered
    obtain ⟨a, first, decoded⟩ := bind_eq_ok.1 decoded
    obtain ⟨rest, later, decoded⟩ := bind_eq_ok.1 decoded
    cases pure_eq_ok.1 decoded
    rw [List.map_cons, lossless key _ v a orderedFirst first, ih orderedRest later]

theorem list_lossless (expected : Shape) {decode : Decoder α} (lossless : Lossless decode encode) :
    Lossless (list expected decode) fun as => .array (as.map encode) := by
  intro path v as ordered decoded
  cases v with
  | array values =>
    exact congrArg Value.array (items_lossless lossless (Value.orderedItems_iff.1 ordered) decoded)
  | null | bool | number | string | object => cases decoded

theorem keyed_lossless (expected : Shape) {decode : String → Decoder α}
    (lossless : ∀ key, Lossless (decode key) encode) :
    Lossless (keyed expected decode) (·.toObject encode) := by
  intro path v map ordered decoded
  cases v with
  | object values =>
    obtain ⟨ascending, inside⟩ := ordered
    obtain ⟨entries, read, rfl⟩ := map_eq_ok.1 decoded
    have same := members_lossless lossless (Value.orderedMembers_iff.1 inside) read
    have keys : Ascending entries := by
      rw [← same, Ascending, List.pairwise_map] at ascending
      exact ascending
    dsimp only [KeyMap.toObject]
    rw [KeyMap.entries_ofList keys]
    exact congrArg Value.object same
  | null | bool | number | string | array => cases decoded

end

theorem strings_lossless : Lossless strings Value.ofStrings := list_lossless _ string_lossless

theorem posting_lossless : Lossless posting Posting.toValue := by
  intro path v p ordered decoded
  unfold posting at decoded
  split at decoded
  · obtain ⟨d, readDoc, decoded⟩ := bind_eq_ok.1 decoded
    cases pure_eq_ok.1 decoded
    simp [Posting.toValue, docNumber_lossless _ _ _ ordered.1 readDoc]
  · obtain ⟨d, readDoc, decoded⟩ := bind_eq_ok.1 decoded
    obtain ⟨w, readWeight, decoded⟩ := bind_eq_ok.1 decoded
    cases pure_eq_ok.1 decoded
    simp [Posting.toValue, Posting.weightOrOne, docNumber_lossless _ _ _ ordered.1 readDoc,
      integer_lossless _ _ _ _ ordered.2.1 readWeight]
  · obtain ⟨d, readDoc, decoded⟩ := bind_eq_ok.1 decoded
    obtain ⟨w, readWeight, decoded⟩ := bind_eq_ok.1 decoded
    obtain ⟨f, readFlags, decoded⟩ := bind_eq_ok.1 decoded
    cases pure_eq_ok.1 decoded
    simp [Posting.toValue, Posting.weightOrOne, Posting.flagsOrZero,
      docNumber_lossless _ _ _ ordered.1 readDoc, integer_lossless _ _ _ _ ordered.2.1 readWeight,
      integer_lossless _ _ _ _ ordered.2.2.1 readFlags]
  · obtain ⟨d, readDoc, decoded⟩ := bind_eq_ok.1 decoded
    obtain ⟨w, readWeight, decoded⟩ := bind_eq_ok.1 decoded
    obtain ⟨f, readFlags, decoded⟩ := bind_eq_ok.1 decoded
    obtain ⟨a, readAnchor, decoded⟩ := bind_eq_ok.1 decoded
    cases pure_eq_ok.1 decoded
    simp [Posting.toValue, Posting.weightOrOne, Posting.flagsOrZero,
      docNumber_lossless _ _ _ ordered.1 readDoc, integer_lossless _ _ _ _ ordered.2.1 readWeight,
      integer_lossless _ _ _ _ ordered.2.2.1 readFlags,
      string_lossless _ _ _ ordered.2.2.2.1 readAnchor]
  · cases decoded

theorem postings_lossless : Lossless postings Postings.toValue := by
  intro path v p ordered decoded
  cases v with
  | number n =>
    obtain ⟨doc, read, rfl⟩ := map_eq_ok.1 decoded
    exact docNumber_lossless _ _ _ ordered read
  | array values =>
    have inside := Value.orderedItems_iff.1 ordered
    simp only [postings] at decoded
    split at decoded
    · obtain ⟨records, read, rfl⟩ := map_eq_ok.1 decoded
      exact congrArg Value.array (items_lossless posting_lossless inside read)
    · obtain ⟨docs, read, rfl⟩ := map_eq_ok.1 decoded
      exact congrArg Value.array (items_lossless docNumber_lossless inside read)
  | null | bool | string | object => cases decoded

theorem terms_lossless : Lossless terms (·.toObject Postings.toValue) :=
  keyed_lossless _ fun _ => postings_lossless

theorem objectFields_lossless {name : String} {path : Path} {doc objtype priority anchor : Value}
    {entry : ObjectEntry} (decoded : objectFields name path doc objtype priority anchor = .ok entry)
    (ordered : ∀ v ∈ [doc, objtype, priority, anchor], v.Ordered) :
    entry.fields = [doc, objtype, priority, anchor] ∧ entry.name = name := by
  obtain ⟨d, readDoc, decoded⟩ := bind_eq_ok.1 decoded
  obtain ⟨t, readType, decoded⟩ := bind_eq_ok.1 decoded
  obtain ⟨p, readPriority, decoded⟩ := bind_eq_ok.1 decoded
  obtain ⟨a, readAnchor, decoded⟩ := bind_eq_ok.1 decoded
  cases pure_eq_ok.1 decoded
  simp only [List.forall_mem_cons] at ordered
  obtain ⟨orderedDoc, orderedType, orderedPriority, orderedAnchor, _⟩ := ordered
  simp only [ObjectEntry.fields, docNumber_lossless _ _ _ orderedDoc readDoc,
    docNumber_lossless _ _ _ orderedType readType,
    integer_lossless _ _ _ _ orderedPriority readPriority,
    string_lossless _ _ _ orderedAnchor readAnchor, and_self]

theorem namedObject_lossless (name : String) :
    Lossless (namedObject name) ObjectEntry.toNamedValue := by
  intro path v entry ordered decoded
  have inside := ordered
  unfold namedObject at decoded
  split at decoded
  · obtain ⟨same, _⟩ := objectFields_lossless decoded (Value.orderedItems_iff.1 ordered)
    rw [ObjectEntry.toNamedValue, same]
  · cases decoded

theorem listedObject_lossless : Lossless listedObject ObjectEntry.toListedValue := by
  intro path v entry ordered decoded
  unfold listedObject at decoded
  split at decoded
  · have inside := Value.orderedItems_iff.1 ordered
    obtain ⟨n, readName, decoded⟩ := bind_eq_ok.1 decoded
    obtain ⟨same, name⟩ := objectFields_lossless decoded fun v member => inside v (by
      simp only [List.mem_cons, List.not_mem_nil, or_false] at member ⊢
      tauto)
    rw [ObjectEntry.toListedValue, same, name, string_lossless _ _ _ (inside _ (by simp)) readName]
    rfl
  · cases decoded

theorem objects_lossless : Lossless objects Objects.toValue := by
  intro path v found ordered decoded
  cases v with
  | object values =>
    simp only [objects] at decoded
    split at decoded
    · obtain ⟨scopes, read, rfl⟩ := map_eq_ok.1 decoded
      exact keyed_lossless _ (fun _ => list_lossless _ listedObject_lossless) _ _ _ ordered read
    · obtain ⟨scopes, read, rfl⟩ := map_eq_ok.1 decoded
      exact keyed_lossless _ (fun _ => keyed_lossless _ namedObject_lossless) _ _ _ ordered read
  | null | bool | number | string | array => cases decoded

theorem objtypes_lossless : Lossless objtypes (·.toObject .string) :=
  keyed_lossless _ fun _ => string_lossless

theorem objectName_lossless : Lossless objectName ObjectName.toValue := by
  intro path v name ordered decoded
  obtain ⟨texts, read, decoded⟩ := bind_eq_ok.1 decoded
  have same := strings_lossless _ _ _ ordered read
  split at decoded
  · cases pure_eq_ok.1 decoded
    exact same
  · cases decoded

theorem objnames_lossless : Lossless objnames (·.toObject ObjectName.toValue) :=
  keyed_lossless _ fun _ => objectName_lossless

theorem envversion_lossless : Lossless envversion EnvVersion.toValue := by
  intro path v version ordered decoded
  cases v with
  | number n =>
    obtain ⟨m, read, rfl⟩ := map_eq_ok.1 decoded
    exact integer_lossless _ _ _ _ ordered read
  | object values =>
    obtain ⟨versions, read, rfl⟩ := map_eq_ok.1 decoded
    exact keyed_lossless _ (fun _ => integer_lossless _) _ _ _ ordered read
  | null | bool | string | array => cases decoded

theorem field?_lossless {α : Type} {decode : Decoder α} {encode : α → Value}
    (lossless : Lossless decode encode) (name : String) {values : List (String × Value)}
    (ordered : ∀ v ∈ values, v.2.Ordered) {found : Option α}
    (decoded : field? name decode values = .ok found) :
    values.lookup name = found.map encode := by
  unfold field? at decoded
  split at decoded
  · rename_i missing
    cases decoded
    exact missing
  · rename_i v present
    obtain ⟨a, read, rfl⟩ := map_eq_ok.1 decoded
    rw [present, Option.map_some, lossless _ v a (ordered _ (mem_of_lookup present)) read]

end Decoder

theorem Fields.ReadFrom.writtenIn {fields : Fields} {values : List (String × Value)}
    (read : fields.ReadFrom values) (inside : ∀ v ∈ values, v.2.Ordered) :
    fields.WrittenIn values where
  docnames := Decoder.field?_lossless Decoder.strings_lossless _ inside read.docnames
  envversion := Decoder.field?_lossless Decoder.envversion_lossless _ inside read.envversion
  filenames := Decoder.field?_lossless Decoder.strings_lossless _ inside read.filenames
  objects := Decoder.field?_lossless Decoder.objects_lossless _ inside read.objects
  objnames := Decoder.field?_lossless Decoder.objnames_lossless _ inside read.objnames
  objtypes := Decoder.field?_lossless Decoder.objtypes_lossless _ inside read.objtypes
  terms := Decoder.field?_lossless Decoder.terms_lossless _ inside read.terms
  titles := Decoder.field?_lossless Decoder.strings_lossless _ inside read.titles
  titleterms := Decoder.field?_lossless Decoder.terms_lossless _ inside read.titleterms

namespace SearchIndex

theorem ofValue_lossless : Decoder.Lossless (fun _ => ofValue) toValue := by
  intro _ v index ordered decoded
  cases v with
  | object values =>
    obtain ⟨ascending, inside⟩ := ordered
    obtain ⟨read, extra⟩ := ofValue_object_eq_ok.1 decoded
    have written := read.writtenIn (Value.orderedMembers_iff.1 inside)
    have free := extraFree_of_extraOf ascending extra
    rw [toValue_eq]
    refine congrArg Value.object (index.ascending_members.ext ascending fun key => ?_)
    by_cases known : key ∈ fieldNames
    · exact (writtenIn_members free).lookup_eq written key known
    · rw [lookup_members_of_new index known, ← extra, lookup_extraOf ascending, if_neg known]
  | null | bool | number | string | array => cases decoded

/-- Decoding loses nothing: an index written as a value is the value that it was decoded from. -/
theorem toValue_of_ofValue {v : Value} {index : SearchIndex} (ordered : v.Ordered)
    (decoded : ofValue v = .ok index) : index.toValue = v :=
  ofValue_lossless .root v index ordered decoded

theorem toValue_of_ofValue_unknown_field :
    let v : Value := .object [("docnames", .ofStrings ["a"]),
      ("terms", .object [("x", .ofUInt64 0)]), ("titles", .ofStrings ["A"]), ("unknown", .null)]
    v.Ordered ∧ ∃ index, ofValue v = .ok index ∧ index.toValue = v := by
  intro v
  have ordered : v.Ordered :=
    ⟨by decide, ⟨trivial, trivial⟩, ⟨by decide, trivial, trivial⟩, ⟨trivial, trivial⟩,
      trivial, trivial⟩
  exact ⟨ordered, _, rfl, toValue_of_ofValue ordered rfl⟩

end SearchIndex
end DocSearch
