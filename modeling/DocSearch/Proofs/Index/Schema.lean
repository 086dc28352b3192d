import DocSearch.Proofs.Index.Lossless
import DocSearch.Proofs.Index.ShapeErrors

/- The schema of index files: which values are read as an index, and which flaw is reported of the
others. -/
namespace DocSearch

/-- The values that may stand at some place of an index file. -/
abbrev Schema := Value → Prop

namespace Schema

def text : Schema := fun v => ∃ s, v = .string s

def whole (low high : Int) : Schema := fun v =>
  ∃ n : Integer, v = .number (.integer n) ∧ low ≤ n.val ∧ n.val < high

def unsigned : Schema := whole 0 0x10000000000000000

def signed : Schema := whole (-0x8000000000000000) 0x8000000000000000

def listOf (item : Schema) : Schema := fun v => ∃ items, v = .array items ∧ ∀ a ∈ items, item a

def mapTo (value : Schema) : Schema := fun v =>
  ∃ members, v = .object members ∧ ∀ member ∈ members, value member.2

def EachFits : List Schema → List Value → Prop
  | _, [] => True
  | [], _ :: _ => False
  | field :: fields, item :: items => field item ∧ EachFits fields items

theorem EachFits.length_le {fields : List Schema} {items : List Value}
    (each : EachFits fields items) : items.length ≤ fields.length := by
  induction items generalizing fields with
  | nil => exact Nat.zero_le _
  | cons item items ih =>
    cases fields with
    | nil => exact each.elim
    | cons field fields => exact Nat.succ_le_succ (ih each.2)

/-- A list with an item for at least so many of the fields; others may be left out from the end. -/
def record (least : Nat) (fields : List Schema) : Schema := fun v =>
  ∃ items, v = .array items ∧ least ≤ items.length ∧ EachFits fields items

def postings : Schema := fun v =>
  unsigned v ∨ listOf unsigned v ∨
    listOf (record 1 [unsigned, signed, signed, text]) v ∧ v ≠ .array []

def objects : Schema := fun v =>
  mapTo (listOf (record 5 [unsigned, unsigned, signed, text, text])) v ∨
    mapTo (mapTo (record 4 [unsigned, unsigned, signed, text])) v

def envversion : Schema := fun v => signed v ∨ mapTo signed v

def indexFields : List (String × Schema) :=
  [("docnames", listOf text), ("envversion", envversion), ("filenames", listOf text),
   ("objects", objects), ("objnames", mapTo (record 3 [text, text, text])),
   ("objtypes", mapTo text), ("terms", mapTo postings), ("titles", listOf text),
   ("titleterms", mapTo postings)]

def requiredFields : List String := ["docnames", "titles", "terms"]

def FieldsFit (members : List (String × Value)) : Prop :=
  ∀ field ∈ indexFields, ∀ v, members.lookup field.1 = some v → field.2 v

/-- Some field that is there lacks its shape, and the error names a place in it. -/
def Misfit (members : List (String × Value)) (e : ShapeError) : Prop :=
  ∃ field ∈ indexFields, ∃ v, members.lookup field.1 = some v ∧ ¬ field.2 v ∧
    e.StandsAt (.ofField field.1)

def firstMissing? (members : List (String × Value)) : Option String :=
  requiredFields.find? fun name => (members.lookup name).isNone

theorem firstMissing?_eq_none {members : List (String × Value)} :
    firstMissing? members = none ↔
      ∀ name ∈ requiredFields, (members.lookup name).isSome = true := by
  simp [firstMissing?, List.find?_eq_none, Option.isSome_iff_ne_none]

def index : Schema := fun v =>
  ∃ members, v = .object members ∧ FieldsFit members ∧
    ∀ name ∈ requiredFields, (members.lookup name).isSome = true

theorem Misfit.not_fieldsFit {members : List (String × Value)} {e : ShapeError}
    (misfit : Misfit members e) : ¬ FieldsFit members := by
  intro fit
  obtain ⟨field, known, v, found, lacks, _⟩ := misfit
  exact lacks (fit field known v found)

theorem Misfit.expected {members : List (String × Value)} {e : ShapeError}
    (misfit : Misfit members e) : e.expected ≠ .presentField := by
  obtain ⟨_, _, _, _, _, stands⟩ := misfit
  exact stands.expected

end Schema

/-- A value is decoded, wherever it stands, exactly if it fits the schema. -/
def Decoder.Accepts {α : Type} (decode : Decoder α) (schema : Schema) : Prop :=
  ∀ path v, (∃ a, decode path v = .ok a) ↔ schema v

namespace Decoder

theorem docNumber_accepts : Accepts docNumber Schema.unsigned := by
  intro path v
  unfold docNumber Schema.unsigned Schema.whole
  simp only [ofOption_eq_ok]
  cases v with
  | number n =>
    cases n with
    | integer n => simp [Value.toUInt64?, Integer.toUInt64?, n.inRange.2]
    | real x => simp [Value.toUInt64?]
  | null | bool | string | array | object => simp [Value.toUInt64?]

theorem integer_accepts (expected : Shape) : Accepts (integer expected) Schema.signed := by
  intro path v
  unfold integer Schema.signed Schema.whole
  simp only [ofOption_eq_ok]
  cases v with
  | number n =>
    cases n with
    | integer n => simp [Value.toInt64?, Integer.toInt64?, n.inRange.1]
    | real x => simp [Value.toInt64?]
  | null | bool | string | array | object => simp [Value.toInt64?]

theorem string_accepts : Accepts string Schema.text := by
  intro path v
  unfold string Schema.text
  simp only [ofOption_eq_ok]
  cases v <;> simp [Value.toString?]

section
variable {α : Type} {schema : Schema}

theorem items_accepts {decode : Decoder α} (accepts : Accepts decode schema) (path : Path) (i : Nat)
    (values : List Value) :
    (∃ as, items decode path i values = .ok as) ↔ ∀ v ∈ values, schema v := by
  induction values generalizing i with
  | nil => simp [items]
  | cons v values ih =>
    rw [List.forall_mem_cons, ← accepts (path.item i) v, ← ih (i + 1)]
    simp only [items, bind_eq_ok, pure_eq_ok]
    constructor
    · intro read
      obtain ⟨_, a, first, as, later, _⟩ := read
      exact ⟨⟨a, first⟩, as, later⟩
    · intro each
      obtain ⟨⟨a, first⟩, as, later⟩ := each
      exact ⟨a :: as, a, first, as, later, rfl⟩

theorem members_accepts {decode : String → Decoder α} (accepts : ∀ key, Accepts (decode key) schema)
    (path : Path) (values : List (String × Value)) :
    (∃ entries, members decode path values = .ok entries) ↔ ∀ member ∈ values, schema member.2 := by
  induction values with
  | nil => simp [members]
  | cons member values ih =>
    obtain ⟨key, v⟩ := member
    rw [List.forall_mem_cons, ← accepts key (path.member key) v, ← ih]
    simp only [members, bind_eq_ok, pure_eq_ok]
    constructor
    · intro read
      obtain ⟨_, a, first, entries, later, _⟩ := read
      exact ⟨⟨a, first⟩, entries, later⟩
    · intro each
      obtain ⟨⟨a, first⟩, entries, later⟩ := each
      exact ⟨(key, a) :: entries, a, first, entries, later, rfl⟩

theorem list_accepts (expected : Shape) {decode : Decoder α} (accepts : Accepts decode schema) :
    Accepts (list expected decode) (Schema.listOf schema) := by
  intro path v
  cases v with
  | array values => simpa [list, Schema.listOf] using items_accepts accepts path 0 values
  | null | bool | number | string | object => simp [list, fail, Schema.listOf]

theorem keyed_accepts (expected : Shape) {decode : String → Decoder α}
    (accepts : ∀ key, Accepts (decode key) schema) :
    Accepts (keyed expected decode) (Schema.mapTo schema) := by
  intro path v
  cases v with
  | object values =>
    simpa [keyed, Schema.mapTo, exists_map_eq_ok] using members_accepts accepts path values
  | null | bool | number | string | array => simp [keyed, fail, Schema.mapTo]

end

theorem strings_accepts : Accepts strings (Schema.listOf Schema.text) :=
  list_accepts _ string_accepts

theorem posting_accepts : Accepts posting
    (Schema.record 1 [Schema.unsigned, Schema.signed, Schema.signed, Schema.text]) := by
  intro path v
  have readDoc := docNumber_accepts (path.item 0)
  have readWeight := integer_accepts .weight (path.item 1)
  have readFlags := integer_accepts .flags (path.item 2)
  have readAnchor := string_accepts (path.item 3)
  cases v with
  | array items =>
    rcases items with _ | ⟨doc, _ | ⟨weight, _ | ⟨flags, _ | ⟨anchor, _ | ⟨fifth, more⟩⟩⟩⟩⟩
    · simp [posting, fail, Schema.record]
    · rw [posting, exists_bind_eq_ok fun _ => exists_pure_eq_ok _]
      simp [Schema.record, Schema.EachFits, readDoc]
    · rw [posting, exists_bind_eq_ok fun _ => exists_bind_eq_ok fun _ => exists_pure_eq_ok _]
      simp [Schema.record, Schema.EachFits, readDoc, readWeight]
    · rw [posting, exists_bind_eq_ok fun _ => exists_bind_eq_ok fun _ => exists_bind_eq_ok fun _ =>
        exists_pure_eq_ok _]
      simp [Schema.record, Schema.EachFits, readDoc, readWeight, readFlags]
    · rw [posting, exists_bind_eq_ok fun _ => exists_bind_eq_ok fun _ => exists_bind_eq_ok fun _ =>
        exists_bind_eq_ok fun _ => exists_pure_eq_ok _]
      simp [Schema.record, Schema.EachFits, readDoc, readWeight, readFlags, readAnchor]
    · simp [posting, fail, Schema.record, Schema.EachFits]
  | null | bool | number | string | object => simp [posting, fail, Schema.record]

theorem isArray_of_record {least : Nat} {fields : List Schema} {v : Value}
    (fits : Schema.record least fields v) : v.isArray = true := by
  obtain ⟨items, rfl, _⟩ := fits
  rfl

theorem isArray_of_unsigned {v : Value} (fits : Schema.unsigned v) : v.isArray = false := by
  obtain ⟨n, rfl, _⟩ := fits
  rfl

/-- One nested list decides that all items are to be records. What fits the schema has no others
then, and what has no nested list can be a list of records only if it is empty. -/
theorem postings_accepts : Accepts postings Schema.postings := by
  intro path v
  cases v with
  | number n =>
    have read := docNumber_accepts path (.number n)
    simp [postings, exists_map_eq_ok, read, Schema.postings, Schema.listOf]
  | array values =>
    have records := items_accepts posting_accepts path 0 values
    have numbers := items_accepts docNumber_accepts path 0 values
    have noNumber : ¬ Schema.unsigned (.array values) := by simp [Schema.unsigned, Schema.whole]
    simp only [postings, Schema.postings, Schema.listOf, ne_eq, Value.array.injEq,
      exists_eq_left', noNumber, false_or]
    split
    · rename_i nested
      rw [exists_map_eq_ok, records]
      obtain ⟨item, member, isArray⟩ := List.any_eq_true.1 nested
      constructor
      · intro each
        exact Or.inr ⟨each, List.ne_nil_of_mem member⟩
      · intro fits
        rcases fits with each | ⟨each, _⟩
        · have notArray := isArray_of_unsigned (each item member)
          rw [isArray] at notArray
          cases notArray
        · exact each
    · rename_i flat
      rw [exists_map_eq_ok, numbers]
      constructor
      · intro each
        exact Or.inl each
      · intro fits
        rcases fits with each | ⟨each, some⟩
        · exact each
        · obtain ⟨item, member⟩ := List.exists_mem_of_ne_nil values some
          have isArray := isArray_of_record (each item member)
          exact absurd (List.any_eq_true.2 ⟨item, member, isArray⟩) flat
  | null | bool | string | object =>
    simp [postings, fail, Schema.postings, Schema.unsigned, Schema.whole, Schema.listOf]

theorem terms_accepts : Accepts terms (Schema.mapTo Schema.postings) :=
  keyed_accepts _ fun _ => postings_accepts

theorem objectFields_accepts (name : String) (path : Path) (doc objtype priority anchor : Value) :
    (∃ entry, objectFields name path doc objtype priority anchor = .ok entry) ↔
      Schema.unsigned doc ∧ Schema.unsigned objtype ∧ Schema.signed priority ∧
        Schema.text anchor := by
  have readDoc := docNumber_accepts (path.item 0)
  have readType := docNumber_accepts (path.item 1)
  have readPriority := integer_accepts .priority (path.item 2)
  have readAnchor := string_accepts (path.item 3)
  rw [objectFields, exists_bind_eq_ok fun _ => exists_bind_eq_ok fun _ => exists_bind_eq_ok fun _ =>
    exists_bind_eq_ok fun _ => exists_pure_eq_ok _]
  simp [readDoc, readType, readPriority, readAnchor]

theorem namedObject_accepts (name : String) : Accepts (namedObject name)
    (Schema.record 4 [Schema.unsigned, Schema.unsigned, Schema.signed, Schema.text]) := by
  intro path v
  cases v with
  | array items =>
    rcases items with _ | ⟨doc, _ | ⟨objtype, _ | ⟨priority, _ | ⟨anchor, _ | ⟨fifth, more⟩⟩⟩⟩⟩
    all_goals
      simp [namedObject, objectFields_accepts, fail, Schema.record, Schema.EachFits]
  | null | bool | number | string | object => simp [namedObject, fail, Schema.record]

theorem listedObject_accepts : Accepts listedObject (Schema.record 5
    [Schema.unsigned, Schema.unsigned, Schema.signed, Schema.text, Schema.text]) := by
  intro path v
  have readName := string_accepts (path.item 4)
  cases v with
  | array items =>
    rcases items with
      _ | ⟨doc, _ | ⟨objtype, _ | ⟨priority, _ | ⟨anchor, _ | ⟨name, _ | ⟨sixth, more⟩⟩⟩⟩⟩⟩
    case cons.cons.cons.cons.cons.nil =>
      rw [listedObject, exists_bind_eq_ok fun _ => objectFields_accepts _ path _ _ _ _, readName]
      simp [Schema.record, Schema.EachFits]
      tauto
    all_goals simp [listedObject, fail, Schema.record, Schema.EachFits]
  | null | bool | number | string | object => simp [listedObject, fail, Schema.record]

theorem objects_accepts : Accepts objects Schema.objects := by
  intro path v
  cases v with
  | object values =>
    have listed := keyed_accepts .scopeObject
      (fun _ => list_accepts .recordList listedObject_accepts) path (.object values)
    have named := keyed_accepts .scopeObject
      (fun _ => keyed_accepts .nameObject namedObject_accepts) path (.object values)
    simp only [objects]
    cases values with
    | nil => simp [exists_map_eq_ok, named, Schema.objects, Schema.mapTo]
    | cons member values =>
      have first : member ∈ member :: values := List.mem_cons_self
      split
      · rename_i isArray
        rw [exists_map_eq_ok, listed]
        constructor
        · intro fits
          exact Or.inl fits
        · intro fits
          rcases fits with fits | ⟨members, same, each⟩
          · exact fits
          · cases same
            obtain ⟨inner, isObject, _⟩ := each member first
            simp [isObject, Value.isArray] at isArray
      · rename_i notArray
        rw [exists_map_eq_ok, named]
        constructor
        · intro fits
          exact Or.inr fits
        · intro fits
          rcases fits with ⟨members, same, each⟩ | fits
          · cases same
            obtain ⟨inner, isList, _⟩ := each member first
            simp [isList, Value.isArray] at notArray
          · exact fits
  | null | bool | number | string | array => simp [objects, fail, Schema.objects, Schema.mapTo]

theorem objtypes_accepts : Accepts objtypes (Schema.mapTo Schema.text) :=
  keyed_accepts _ fun _ => string_accepts

theorem length_items {α : Type} {decode : Decoder α} {path : Path} {i : Nat} {values : List Value}
    {as : List α} (decoded : items decode path i values = .ok as) : as.length = values.length := by
  induction values generalizing i as with
  | nil =>
    cases decoded
    rfl
  | cons v values ih =>
    obtain ⟨a, _, decoded⟩ := bind_eq_ok.1 decoded
    obtain ⟨rest, later, decoded⟩ := bind_eq_ok.1 decoded
    cases pure_eq_ok.1 decoded
    rw [List.length_cons, List.length_cons, ih later]

theorem objectName_accepts : Accepts objectName
    (Schema.record 3 [Schema.text, Schema.text, Schema.text]) := by
  intro path v
  have read := strings_accepts path v
  constructor
  · intro decoded
    obtain ⟨name, decoded⟩ := decoded
    obtain ⟨texts, found, named⟩ := bind_eq_ok.1 decoded
    obtain ⟨items, rfl, each⟩ := read.1 ⟨texts, found⟩
    have length := length_items found
    split at named
    · obtain ⟨a, b, c, rfl⟩ := List.length_eq_three.1 length.symm
      simpa [Schema.record, Schema.EachFits] using each
    · cases named
  · intro fits
    obtain ⟨items, rfl, enough, each⟩ := fits
    obtain ⟨a, b, c, rfl⟩ := List.length_eq_three.1 (Nat.le_antisymm each.length_le enough)
    obtain ⟨texts, found⟩ := read.2 ⟨_, rfl, by simpa [Schema.EachFits] using each⟩
    obtain ⟨domain, role, label, rfl⟩ := List.length_eq_three.1 (length_items found)
    exact ⟨⟨domain, role, label⟩, bind_eq_ok.2 ⟨_, found, rfl⟩⟩

theorem objnames_accepts : Accepts objnames
    (Schema.mapTo (Schema.record 3 [Schema.text, Schema.text, Schema.text])) :=
  keyed_accepts _ fun _ => objectName_accepts

theorem envversion_accepts : Accepts envversion Schema.envversion := by
  intro path v
  cases v with
  | number n =>
    have read := integer_accepts .integer path (.number n)
    simp [envversion, exists_map_eq_ok, read, Schema.envversion, Schema.mapTo]
  | object values =>
    have read := keyed_accepts .integerOrObject
      (fun _ => integer_accepts .integer) path (.object values)
    simp [envversion, exists_map_eq_ok, read, Schema.envversion, Schema.signed, Schema.whole]
  | null | bool | string | array =>
    simp [envversion, fail, Schema.envversion, Schema.signed, Schema.whole, Schema.mapTo]

theorem field?_accepts {α : Type} {decode : Decoder α} {schema : Schema}
    (accepts : Accepts decode schema) (name : String) (values : List (String × Value)) :
    (∃ field, field? name decode values = .ok field) ↔
      ∀ v, values.lookup name = some v → schema v := by
  unfold field?
  cases values.lookup name with
  | none => simp
  | some v => simp [exists_map_eq_ok, accepts (.ofField name) v]

theorem field?_misfit {α : Type} {decode : Decoder α} {schema : Schema} {name : String}
    (accepts : Accepts decode schema) (finds : FindsFlaws decode)
    (known : (name, schema) ∈ Schema.indexFields) (values : List (String × Value)) :
    FailsWith (Schema.Misfit values) (field? name decode values) := by
  intro e failed
  obtain ⟨v, found, flaw⟩ := field?_eq_error.1 failed
  refine ⟨(name, schema), known, v, found, ?_, finds _ v e flaw⟩
  intro fits
  obtain ⟨a, decoded⟩ := (accepts (.ofField name) v).2 fits
  rw [decoded] at flaw
  cases flaw

theorem isNone_lookup {α : Type} {decode : Decoder α} {name : String}
    {values : List (String × Value)} {field : Option α}
    (read : field? name decode values = .ok field) :
    (values.lookup name).isNone = field.isNone := by
  cases field with
  | none => rw [field?_eq_none.1 read]; rfl
  | some a =>
    obtain ⟨v, found, _⟩ := field?_eq_some.1 read
    rw [found]
    rfl

end Decoder

namespace Fields
open Decoder

theorem exists_read_iff (values : List (String × Value)) :
    (∃ fields, read values = .ok fields) ↔ Schema.FieldsFit values := by
  rw [read, exists_bind_eq_ok fun _ => exists_bind_eq_ok fun _ => exists_bind_eq_ok fun _ =>
    exists_bind_eq_ok fun _ => exists_bind_eq_ok fun _ => exists_bind_eq_ok fun _ =>
    exists_bind_eq_ok fun _ => exists_bind_eq_ok fun _ => exists_bind_eq_ok fun _ =>
    exists_pure_eq_ok _]
  simp only [field?_accepts strings_accepts, field?_accepts envversion_accepts,
    field?_accepts objects_accepts, field?_accepts objnames_accepts,
    field?_accepts objtypes_accepts, field?_accepts terms_accepts]
  simp [Schema.FieldsFit, Schema.indexFields]

theorem read_misfit (values : List (String × Value)) :
    FailsWith (Schema.Misfit values) (read values) := by
  have stringList {name : String}
      (known : (name, Schema.listOf Schema.text) ∈ Schema.indexFields) :=
    field?_misfit strings_accepts strings_findsFlaws known values
  have termMap {name : String}
      (known : (name, Schema.mapTo Schema.postings) ∈ Schema.indexFields) :=
    field?_misfit terms_accepts terms_findsFlaws known values
  refine (stringList (by simp [Schema.indexFields])).bind fun _ => ?_
  refine (field?_misfit envversion_accepts envversion_findsFlaws
    (by simp [Schema.indexFields]) values).bind fun _ => ?_
  refine (stringList (by simp [Schema.indexFields])).bind fun _ => ?_
  refine (field?_misfit objects_accepts objects_findsFlaws
    (by simp [Schema.indexFields]) values).bind fun _ => ?_
  refine (field?_misfit objnames_accepts objnames_findsFlaws
    (by simp [Schema.indexFields]) values).bind fun _ => ?_
  refine (field?_misfit objtypes_accepts objtypes_findsFlaws
    (by simp [Schema.indexFields]) values).bind fun _ => ?_
  refine (termMap (by simp [Schema.indexFields])).bind fun _ => ?_
  refine (stringList (by simp [Schema.indexFields])).bind fun _ => ?_
  exact (termMap (by simp [Schema.indexFields])).bind fun _ => .ok _

theorem complete_of_read {fields : Fields} {values : List (String × Value)}
    (read : fields.ReadFrom values) (extra : KeyMap Value) :
    (Schema.firstMissing? values = none ∧ ∃ index, fields.complete extra = .ok index) ∨
      ∃ name, Schema.firstMissing? values = some name ∧
        fields.complete extra = .error ⟨.ofField name, .presentField⟩ := by
  have docnames := isNone_lookup read.docnames
  have titles := isNone_lookup read.titles
  have terms := isNone_lookup read.terms
  simp only [Schema.firstMissing?, Schema.requiredFields, List.find?, docnames, titles, terms]
  unfold complete
  cases fields.docnames <;> cases fields.titles <;> cases fields.terms
  all_goals simp [present, ofOption, fail, bind, Except.bind, pure, Except.pure]

end Fields

namespace SearchIndex
open Schema

/-- How reading a value as an index can end. -/
inductive Verdict : Value → Except ShapeError SearchIndex → Prop
  | noObject {v : Value} (other : ∀ members, v ≠ .object members) :
      Verdict v (.error ⟨.root, .object⟩)
  | misfit {members : List (String × Value)} {e : ShapeError} (flaw : Misfit members e) :
      Verdict (.object members) (.error e)
  | missing {members : List (String × Value)} {name : String} (fit : FieldsFit members)
      (first : firstMissing? members = some name) :
      Verdict (.object members) (.error ⟨.ofField name, .presentField⟩)
  | whole {members : List (String × Value)} {index : SearchIndex} (fit : FieldsFit members)
      (none : firstMissing? members = none) : Verdict (.object members) (.ok index)

theorem verdict_ofValue (v : Value) : Verdict v (ofValue v) := by
  cases v with
  | object members =>
    rw [ofValue_object]
    cases read : Fields.read members with
    | error e => exact .misfit (Fields.read_misfit members e read)
    | ok fields =>
      have fit := (Fields.exists_read_iff members).1 ⟨fields, read⟩
      change Verdict _ (fields.complete (extraOf members))
      rcases Fields.complete_of_read (Fields.read_eq_ok.1 read) (extraOf members) with
        ⟨none, index, made⟩ | ⟨name, first, made⟩
      · rw [made]
        exact .whole fit none
      · rw [made]
        exact .missing fit first
  | null | bool | number | string | array => exact .noObject (by simp)

/-- Exactly the values of the schema are read as an index. A missing field is reported exactly if
all fields that are there have their shapes, and it is the first one that is missing. -/
theorem ofValue_exact (v : Value) :
    ((∃ index, ofValue v = .ok index) ↔ Schema.index v) ∧
      ∀ e, ofValue v = .error e ∧ e.expected = .presentField ↔
        ∃ members name, v = .object members ∧ FieldsFit members ∧
          firstMissing? members = some name ∧ e = ⟨.ofField name, .presentField⟩ := by
  have verdict := verdict_ofValue v
  generalize ofValue v = found at verdict
  unfold Schema.index
  simp only [← firstMissing?_eq_none]
  cases verdict with
  | noObject other => simp [other]
  | misfit flaw => simp [flaw.not_fieldsFit, flaw.expected]
  | missing fit first =>
    refine ⟨by simp [first], fun e => ?_⟩
    constructor
    · intro reported
      obtain ⟨same, _⟩ := reported
      cases same
      exact ⟨_, _, rfl, fit, first, rfl⟩
    · intro reported
      obtain ⟨members, name, same, _, named, rfl⟩ := reported
      cases same
      rw [first] at named
      cases named
      exact ⟨rfl, rfl⟩
  | whole fit none => simp [fit, none]

end SearchIndex
end DocSearch
