import DocSearch.Proofs.Index.Lossless

/- Which indexes come back as they were when they are written as a value and read again: those in
which nothing is held in a form that writing cannot show. -/
namespace DocSearch

/-- Only trailing fields are absent. -/
structure Posting.IsCanonical (p : Posting) : Prop where
  flags : p.anchor.isSome = true → p.flags.isSome = true
  weight : p.flags.isSome = true → p.weight.isSome = true

theorem Posting.isCanonical_iff (p : Posting) : p.IsCanonical ↔
    (p.anchor.isSome = true → p.flags.isSome = true) ∧
      (p.flags.isSome = true → p.weight.isSome = true) :=
  ⟨fun canonical => ⟨canonical.flags, canonical.weight⟩, fun each => ⟨each.1, each.2⟩⟩

instance (p : Posting) : Decidable p.IsCanonical := decidable_of_iff' _ p.isCanonical_iff

/-- An empty list of records would be read as a list of page numbers. -/
def Postings.IsCanonical : Postings → Prop
  | .single _ | .list _ => True
  | .detailed records => records ≠ [] ∧ ∀ p ∈ records, p.IsCanonical

/-- Named objects are written under their keys, and no scope at all is read as that layout. -/
def Objects.IsCanonical : Objects → Prop
  | .named scopes => ∀ scope ∈ scopes.entries, ∀ object ∈ scope.2.entries, object.2.name = object.1
  | .listed scopes => scopes.entries ≠ []

structure SearchIndex.IsCanonical (index : SearchIndex) : Prop where
  terms : ∀ term ∈ index.terms.entries, term.2.IsCanonical
  titleterms : ∀ terms, index.titleterms = some terms → ∀ term ∈ terms.entries, term.2.IsCanonical
  objects : ∀ objects, index.objects = some objects → objects.IsCanonical
  extra : index.ExtraFree

theorem Integer.toUInt64?_ofUInt64 (n : UInt64) : (Integer.ofUInt64 n).toUInt64? = some n := by
  unfold Integer.toUInt64? Integer.ofUInt64
  simp

theorem Integer.toInt64?_ofInt64 (n : Int64) : (Integer.ofInt64 n).toInt64? = some n := by
  have small : n.toInt < 0x8000000000000000 := n.toInt_lt
  unfold Integer.toInt64? Integer.ofInt64
  simp [small]

/-- What is encoded is decoded as itself exactly if it is of that kind. -/
def Decoder.GivesBack {α : Type} (decode : Decoder α) (encode : α → Value) (kind : α → Prop) :
    Prop :=
  ∀ path a, decode path (encode a) = .ok a ↔ kind a

namespace Decoder

theorem docNumber_givesBack : GivesBack docNumber Value.ofUInt64 fun _ => True := by
  intro path n
  have read : (Value.ofUInt64 n).toUInt64? = some n := Integer.toUInt64?_ofUInt64 n
  simp [docNumber, ofOption_eq_ok, read]

theorem integer_givesBack (expected : Shape) :
    GivesBack (integer expected) Value.ofInt64 fun _ => True := by
  intro path n
  have read : (Value.ofInt64 n).toInt64? = some n := Integer.toInt64?_ofInt64 n
  simp [integer, ofOption_eq_ok, read]

theorem string_givesBack : GivesBack string Value.string fun _ => True := by
  intro path s
  simp [string, ofOption_eq_ok, Value.toString?]

section
variable {α : Type} {encode : α → Value}

theorem items_givesBack {decode : Decoder α} {kind : α → Prop}
    (gives : GivesBack decode encode kind) (path : Path) (i : Nat) (as : List α) :
    items decode path i (as.map encode) = .ok as ↔ ∀ a ∈ as, kind a := by
  induction as generalizing i with
  | nil => simp [items]
  | cons a as ih =>
    rw [List.map_cons, List.forall_mem_cons, ← gives (path.item i) a, ← ih (i + 1)]
    simp only [items, bind_eq_ok, pure_eq_ok, List.cons.injEq]
    constructor
    · intro read
      obtain ⟨b, first, bs, later, rfl, rfl⟩ := read
      exact ⟨first, later⟩
    · intro each
      exact ⟨a, each.1, as, each.2, rfl, rfl⟩

theorem members_givesBack {decode : String → Decoder α} {kind : String → α → Prop}
    (gives : ∀ key, GivesBack (decode key) encode (kind key)) (path : Path)
    (entries : List (String × α)) :
    members decode path (entries.map fun entry => (entry.1, encode entry.2)) = .ok entries ↔
      ∀ entry ∈ entries, kind entry.1 entry.2 := by
  induction entries with
  | nil => simp [members]
  | cons entry entries ih =>
    obtain ⟨key, a⟩ := entry
    rw [List.map_cons, List.forall_mem_cons, ← gives key (path.member key) a, ← ih]
    simp only [members, bind_eq_ok, pure_eq_ok, List.cons.injEq, Prod.mk.injEq, true_and]
    constructor
    · intro read
      obtain ⟨b, first, bs, later, rfl, rfl⟩ := read
      exact ⟨first, later⟩
    · intro each
      exact ⟨a, each.1, entries, each.2, rfl, rfl⟩

theorem keys_members {decode : String → Decoder α} {path : Path} {values : List (String × Value)}
    {entries : List (String × α)} (decoded : members decode path values = .ok entries) :
    entries.map Prod.fst = values.map Prod.fst := by
  induction values generalizing entries with
  | nil =>
    cases decoded
    rfl
  | cons head values ih =>
    obtain ⟨a, _, decoded⟩ := bind_eq_ok.1 decoded
    obtain ⟨rest, later, decoded⟩ := bind_eq_ok.1 decoded
    cases pure_eq_ok.1 decoded
    rw [List.map_cons, List.map_cons, ih later]

theorem list_givesBack (expected : Shape) {decode : Decoder α} {kind : α → Prop}
    (gives : GivesBack decode encode kind) :
    GivesBack (list expected decode) (fun as => .array (as.map encode)) fun as =>
      ∀ a ∈ as, kind a :=
  fun path as => items_givesBack gives path 0 as

theorem keyed_givesBack (expected : Shape) {decode : String → Decoder α}
    {kind : String → α → Prop} (gives : ∀ key, GivesBack (decode key) encode (kind key)) :
    GivesBack (keyed expected decode) (·.toObject encode) fun map =>
      ∀ entry ∈ map.entries, kind entry.1 entry.2 := by
  intro path map
  refine Iff.trans ?_ (members_givesBack gives path map.entries)
  simp only [KeyMap.toObject, keyed, map_eq_ok]
  constructor
  · intro read
    obtain ⟨entries, decoded, rfl⟩ := read
    -- Decoding keeps the keys, so that making a map of the entries moves none of them.
    have keys := keys_members decoded
    rw [List.map_map] at keys
    have ascending : Ascending entries := (KeyMap.ofList entries).ascending.of_keys keys
    rwa [KeyMap.entries_ofList ascending] at decoded ⊢
  · intro decoded
    exact ⟨map.entries, decoded, map.ofList_entries⟩

end

theorem strings_givesBack : GivesBack strings Value.ofStrings fun _ => True := by
  intro path texts
  have read := list_givesBack .stringList string_givesBack path texts
  exact read.trans (by simp)

theorem posting_givesBack : GivesBack posting Posting.toValue Posting.IsCanonical := by
  intro path p
  obtain ⟨doc, weight, flags, anchor⟩ := p
  have readDoc (path : Path) : docNumber path (Value.ofUInt64 doc) = .ok doc :=
    (docNumber_givesBack path doc).2 trivial
  have readInteger (expected : Shape) (path : Path) (n : Int64) :
      integer expected path (Value.ofInt64 n) = .ok n :=
    (integer_givesBack expected path n).2 trivial
  have readString (path : Path) (s : String) : string path (.string s) = .ok s :=
    (string_givesBack path s).2 trivial
  rw [Posting.isCanonical_iff]
  -- One case for each choice of the fields that are absent.
  cases anchor <;> cases flags <;> cases weight <;>
    simp [Posting.toValue, Posting.weightOrOne, Posting.flagsOrZero, posting, readDoc, readInteger,
      readString, bind_eq_ok]

/-- Flags without a weight are written behind the weight that they stand for. -/
example : ¬ Posting.IsCanonical ⟨3, none, some 1, none⟩ := by decide

theorem any_isArray_records (records : List Posting) :
    (records.map Posting.toValue).any Value.isArray = !records.isEmpty := by
  cases records with
  | nil => rfl
  | cons p records =>
    have first : p.toValue.isArray = true := by
      unfold Posting.toValue
      split <;> rfl
    simp [first]

theorem postings_givesBack : GivesBack postings Postings.toValue Postings.IsCanonical := by
  intro path p
  cases p with
  | single doc =>
    have read : docNumber path (.ofUInt64 doc) = .ok doc := (docNumber_givesBack path doc).2 trivial
    exact iff_of_true (map_eq_ok.2 ⟨doc, read, rfl⟩) trivial
  | list docs =>
    have noRecord : (docs.map Value.ofUInt64).any Value.isArray = false := by
      simp [Value.ofUInt64, Value.isArray]
    have read := (items_givesBack docNumber_givesBack path 0 docs).2 fun _ _ => trivial
    simp [Postings.toValue, postings, noRecord, read, Postings.IsCanonical, Except.map]
  | detailed records =>
    rw [Postings.toValue, postings, any_isArray_records]
    cases records with
    | nil => simp [items, Except.map, Postings.IsCanonical]
    | cons p records =>
      have read := items_givesBack posting_givesBack path 0 (p :: records)
      simpa [map_eq_ok, Postings.IsCanonical] using read

theorem terms_givesBack : GivesBack terms (·.toObject Postings.toValue) fun terms =>
    ∀ term ∈ terms.entries, term.2.IsCanonical :=
  keyed_givesBack _ fun _ => postings_givesBack

theorem objectFields_fields (name : String) (path : Path) (entry : ObjectEntry) :
    objectFields name path (.ofUInt64 entry.doc) (.ofUInt64 entry.objtype)
      (.ofInt64 entry.priority) (.string entry.anchor) = .ok { entry with name } := by
  have readDoc := (docNumber_givesBack (path.item 0) entry.doc).2 trivial
  have readType := (docNumber_givesBack (path.item 1) entry.objtype).2 trivial
  have readPriority := (integer_givesBack .priority (path.item 2) entry.priority).2 trivial
  have readAnchor := (string_givesBack (path.item 3) entry.anchor).2 trivial
  simp [objectFields, readDoc, readType, readPriority, readAnchor, bind_eq_ok]

theorem namedObject_givesBack (name : String) :
    GivesBack (namedObject name) ObjectEntry.toNamedValue fun entry => entry.name = name := by
  intro path entry
  have read : namedObject name path entry.toNamedValue = .ok { entry with name } :=
    objectFields_fields name path entry
  rw [read]
  constructor
  · intro same
    rw [← Except.ok.inj same]
  · intro same
    rw [← same]

theorem listedObject_givesBack :
    GivesBack listedObject ObjectEntry.toListedValue fun _ => True := by
  intro path entry
  have readName := (string_givesBack (path.item 4) entry.name).2 trivial
  have read := objectFields_fields entry.name path entry
  refine iff_of_true (bind_eq_ok.2 ⟨entry.name, readName, ?_⟩) trivial
  exact read

theorem objects_of_arrays {α : Type} {encode : α → Value} (arrays : ∀ a, (encode a).isArray = true)
    {map : KeyMap α} (some : map.entries ≠ []) (path : Path) :
    objects path (map.toObject encode) =
      (keyed .scopeObject (fun _ => list .recordList listedObject)
        path (map.toObject encode)).map .listed := by
  unfold KeyMap.toObject objects
  apply if_pos
  cases entries : map.entries with
  | nil => exact absurd entries some
  | cons entry rest => simp [arrays]

theorem objects_of_others {α : Type} {encode : α → Value}
    (others : ∀ a, (encode a).isArray = false) (map : KeyMap α) (path : Path) :
    objects path (map.toObject encode) =
      (keyed .scopeObject (fun _ => keyed .nameObject namedObject)
        path (map.toObject encode)).map .named := by
  unfold KeyMap.toObject objects
  apply if_neg
  cases map.entries with
  | nil => simp
  | cons entry rest => simp [others]

theorem objects_givesBack : GivesBack objects Objects.toValue Objects.IsCanonical := by
  intro path found
  cases found with
  | named scopes =>
    have read := keyed_givesBack .scopeObject
      (fun _ => keyed_givesBack .nameObject namedObject_givesBack) path scopes
    rw [Objects.toValue, objects_of_others (fun _ => rfl), map_eq_ok]
    simpa [Objects.IsCanonical] using read
  | listed scopes =>
    by_cases empty : scopes.entries = []
    · simp [Objects.toValue, KeyMap.toObject, objects, map_eq_ok, Objects.IsCanonical, empty]
    · have read := (keyed_givesBack .scopeObject
        (fun _ => list_givesBack .recordList listedObject_givesBack) path scopes).2 (by simp)
      rw [Objects.toValue, objects_of_arrays (fun _ => rfl) empty]
      exact iff_of_true (map_eq_ok.2 ⟨scopes, read, rfl⟩) empty

theorem objtypes_givesBack : GivesBack objtypes (·.toObject .string) fun _ => True := by
  intro path types
  exact (keyed_givesBack .typeObject (fun _ => string_givesBack) path types).trans (by simp)

theorem objectName_givesBack : GivesBack objectName ObjectName.toValue fun _ => True := by
  intro path name
  have read := (strings_givesBack path [name.domain, name.role, name.label]).2 trivial
  exact iff_of_true (bind_eq_ok.2 ⟨_, read, rfl⟩) trivial

theorem objnames_givesBack : GivesBack objnames (·.toObject ObjectName.toValue) fun _ => True := by
  intro path names
  exact (keyed_givesBack .typeObject (fun _ => objectName_givesBack) path names).trans (by simp)

theorem envversion_givesBack : GivesBack envversion EnvVersion.toValue fun _ => True := by
  intro path version
  refine iff_of_true ?_ trivial
  cases version with
  | schema n => exact map_eq_ok.2 ⟨n, (integer_givesBack .integer path n).2 trivial, rfl⟩
  | extensions versions =>
    have read := (keyed_givesBack .integerOrObject
      (fun _ => integer_givesBack .integer) path versions).2 (by simp)
    exact map_eq_ok.2 ⟨versions, read, rfl⟩

theorem field?_givesBack {α : Type} {decode : Decoder α} {encode : α → Value} {kind : α → Prop}
    (gives : GivesBack decode encode kind) {name : String} {values : List (String × Value)}
    {field : Option α} (written : values.lookup name = field.map encode) :
    field? name decode values = .ok field ↔ ∀ a, field = some a → kind a := by
  unfold field?
  rw [written]
  cases field with
  | none => simp
  | some a =>
    have read := gives (.ofField name) a
    simpa [map_eq_ok] using read

end Decoder

namespace SearchIndex
open Decoder

theorem readFrom_iff {index : SearchIndex} {values : List (String × Value)}
    (written : index.fields.WrittenIn values) :
    index.fields.ReadFrom values ↔
      (∀ term ∈ index.terms.entries, term.2.IsCanonical) ∧
      (∀ terms, index.titleterms = some terms → ∀ term ∈ terms.entries, term.2.IsCanonical) ∧
      ∀ objects, index.objects = some objects → objects.IsCanonical := by
  constructor
  · intro read
    refine ⟨?_, ?_, ?_⟩
    · exact (field?_givesBack terms_givesBack written.terms).1 read.terms _ rfl
    · exact (field?_givesBack terms_givesBack written.titleterms).1 read.titleterms
    · exact (field?_givesBack objects_givesBack written.objects).1 read.objects
  · intro canonical
    obtain ⟨terms, titleterms, objects⟩ := canonical
    constructor
    · exact (field?_givesBack strings_givesBack written.docnames).2 fun _ _ => trivial
    · exact (field?_givesBack envversion_givesBack written.envversion).2 fun _ _ => trivial
    · exact (field?_givesBack strings_givesBack written.filenames).2 fun _ _ => trivial
    · exact (field?_givesBack objects_givesBack written.objects).2 objects
    · exact (field?_givesBack objnames_givesBack written.objnames).2 fun _ _ => trivial
    · exact (field?_givesBack objtypes_givesBack written.objtypes).2 fun _ _ => trivial
    · refine (field?_givesBack terms_givesBack written.terms).2 fun found same => ?_
      rw [← Option.some.inj same]
      exact terms
    · exact (field?_givesBack strings_givesBack written.titles).2 fun _ _ => trivial
    · exact (field?_givesBack terms_givesBack written.titleterms).2 titleterms

/-- An index that is written as a value is read as it was exactly if it is canonical. -/
theorem ofValue_toValue_iff (index : SearchIndex) :
    ofValue index.toValue = .ok index ↔ index.IsCanonical := by
  rw [toValue_eq, ofValue_object_eq_ok]
  constructor
  · intro read
    obtain ⟨read, extra⟩ := read
    have free := extraFree_of_extraOf index.ascending_members extra
    obtain ⟨terms, titleterms, objects⟩ := (readFrom_iff (writtenIn_members free)).1 read
    exact ⟨terms, titleterms, objects, free⟩
  · intro canonical
    refine ⟨?_, extraOf_members canonical.extra⟩
    rw [readFrom_iff (writtenIn_members canonical.extra)]
    exact ⟨canonical.terms, canonical.titleterms, canonical.objects⟩

end SearchIndex
end DocSearch
