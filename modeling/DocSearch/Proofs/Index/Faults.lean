import DocSearch.Proofs.Index.Spots
import DocSearch.Proofs.KeyMap

/- The rules of integrity, said of the index alone, and that the report of an index lists exactly the
spots that break one of them. -/
namespace DocSearch.SearchIndex

def pageList? (index : SearchIndex) : PageField → Option (List String)
  | .titles => some index.titles
  | .filenames => index.filenames

def termMap? (index : SearchIndex) : TermField → Option (KeyMap Postings)
  | .terms => some index.terms
  | .titleterms => index.titleterms

def typeKeys? (index : SearchIndex) : TypeTable → Option (List String)
  | .objtypes => index.objtypes.map KeyMap.keys
  | .objnames => index.objnames.map KeyMap.keys

def ListsType (index : SearchIndex) (table : TypeTable) (key : String) : Prop :=
  ∃ keys, index.typeKeys? table = some keys ∧ key ∈ keys

/-- What breaks a rule at a spot, and the violation that says so. -/
inductive FaultAt (index : SearchIndex) : Spot → Violation → Prop
  | length {field : PageField} {names : List String}
    (present : index.pageList? field = some names)
    (differs : names.length ≠ index.docnames.length) :
    FaultAt index (.pages field) (.lengthMismatch field index.docnames.length names.length)
  | emptyKey {field : TermField} {terms : KeyMap Postings} {postings : Postings}
    (present : index.termMap? field = some terms) (entry : ("", postings) ∈ terms.entries) :
    FaultAt index (.key field "") (.emptyTerm field)
  | posting {field : TermField} {terms : KeyMap Postings} {term : String} {postings : Postings}
    {number doc : Nat} (present : index.termMap? field = some terms)
    (entry : (term, postings) ∈ terms.entries) (named : postings.docs[number]? = some doc)
    (outside : index.docnames.length ≤ doc) :
    FaultAt index (.posting field term number)
      (.postingOutOfRange field term doc index.docnames.length)
  | objectPage {number : Nat} {scope : String} {entry : ObjectEntry}
    (listed : index.entries[number]? = some (scope, entry))
    (outside : index.docnames.length ≤ entry.doc.toNat) :
    FaultAt index (.objectPage number)
      (.objectDocOutOfRange (fullName scope entry.name) entry.doc.toNat index.docnames.length)
  | objectType {number : Nat} {scope : String} {entry : ObjectEntry} {table : TypeTable}
    (listed : index.entries[number]? = some (scope, entry))
    (missing : ¬ index.ListsType table (typeKey entry.objtype)) :
    FaultAt index (.objectType number table)
      (.unknownObjectType (fullName scope entry.name) entry.objtype.toNat table)
  | typeKey {table : TypeTable} {keys others : List String} {key : String}
    (own : index.typeKeys? table = some keys) (opposite : index.typeKeys? table.other = some others)
    (listed : key ∈ keys) (missing : key ∉ others) :
    FaultAt index (.typeKey table key) (.objectTypeTableMismatch key table table.other)

/-- All rules hold everywhere. -/
structure Intact (index : SearchIndex) : Prop where
  lengths : ∀ field names, index.pageList? field = some names →
    names.length = index.docnames.length
  keys : ∀ field terms, index.termMap? field = some terms → "" ∉ terms.keys
  postings : ∀ field terms, index.termMap? field = some terms → ∀ term postings,
    (term, postings) ∈ terms.entries → ∀ doc ∈ postings.docs, doc < index.docnames.length
  objectPages : ∀ scope entry, (scope, entry) ∈ index.entries →
    entry.doc.toNat < index.docnames.length
  objectTypes : ∀ scope entry, (scope, entry) ∈ index.entries → ∀ table,
    index.ListsType table (typeKey entry.objtype)
  tables : ∀ keys others, index.typeKeys? .objtypes = some keys →
    index.typeKeys? .objnames = some others → ∀ key, key ∈ keys ↔ key ∈ others

variable {index : SearchIndex} {spot : Spot} {violation : Violation}

theorem faultAt_pages_iff {field : PageField} :
    index.FaultAt spot violation ∧ spot.check = .pages field ↔
      ∃ names, index.pageList? field = some names ∧ names.length ≠ index.docnames.length ∧
        spot = .pages field ∧
        violation = .lengthMismatch field index.docnames.length names.length := by
  constructor
  · rintro ⟨fault, here⟩
    cases fault with
    | length present differs =>
      cases here
      exact ⟨_, present, differs, rfl, rfl⟩
    | _ => cases here
  · rintro ⟨names, present, differs, rfl, rfl⟩
    exact ⟨.length present differs, rfl⟩

theorem reports_pages (index : SearchIndex) (field : PageField) :
    Reports (((index.pageList? field).map
        (checkLength field index.docnames.length ·.length)).getD [])
      fun s v => index.FaultAt s v ∧ s.check = .pages field := by
  have lists := Reports.optional (index.pageList? field) fun names =>
    Reports.whenNot (names.length = index.docnames.length) (.pages field)
      (.lengthMismatch field index.docnames.length names.length)
  exact lists.congr fun s v => faultAt_pages_iff.symm

def EntryFault (index : SearchIndex) (field : TermField) (entry : String × Postings) (spot : Spot)
    (violation : Violation) : Prop :=
  (entry.1 = "" ∧ spot = .key field entry.1 ∧ violation = .emptyTerm field) ∨
    ∃ doc number, entry.2.docs[number]? = some doc ∧ index.docnames.length ≤ doc ∧
      spot = .posting field entry.1 number ∧
      violation = .postingOutOfRange field entry.1 doc index.docnames.length

theorem EntryFault.place {field : TermField} {entry : String × Postings}
    (fault : index.EntryFault field entry spot violation) :
    spot.check = .terms field ∧ spot.position.1 = entry.1 := by
  rcases fault with ⟨_, rfl, _⟩ | ⟨_, _, _, _, rfl, _⟩ <;> exact ⟨rfl, rfl⟩

theorem faultAt_terms_iff {field : TermField} :
    index.FaultAt spot violation ∧ spot.check = .terms field ↔
      ∃ terms, index.termMap? field = some terms ∧ ∃ entry ∈ terms.entries,
        index.EntryFault field entry spot violation := by
  constructor
  · rintro ⟨fault, here⟩
    cases fault with
    | emptyKey present entry =>
      cases here
      exact ⟨_, present, _, entry, Or.inl ⟨rfl, rfl, rfl⟩⟩
    | posting present entry named outside =>
      cases here
      exact ⟨_, present, _, entry, Or.inr ⟨_, _, named, outside, rfl, rfl⟩⟩
    | _ => cases here
  · rintro ⟨terms, present, ⟨term, postings⟩, entry, ⟨rfl, rfl, rfl⟩ |
      ⟨doc, number, named, outside, rfl, rfl⟩⟩
    · exact ⟨.emptyKey present entry, rfl⟩
    · exact ⟨.posting present entry named outside, rfl⟩

theorem reports_entry (index : SearchIndex) (field : TermField) (term : String)
    (postings : Postings) :
    Reports ((if term.isEmpty then [.emptyTerm field] else []) ++
        (postings.docs.filter (index.docnames.length ≤ ·)).map
          (.postingOutOfRange field term · index.docnames.length))
      (index.EntryFault field (term, postings)) := by
  have key := Reports.when (term.isEmpty = true) (.key field term) (.emptyTerm field)
  have docs : Reports ((postings.docs.filter (index.docnames.length ≤ ·)).map
      (.postingOutOfRange field term · index.docnames.length)) fun s v =>
        ∃ doc number, postings.docs[number]? = some doc ∧ index.docnames.length ≤ doc ∧
          s = .posting field term number ∧
          v = .postingOutOfRange field term doc index.docnames.length := by
    rw [map_filter_eq_flatMap]
    apply Reports.numbered
    · exact fun doc number => Reports.when _ _ _
    · rintro a b i j below s t v w ⟨_, rfl, _⟩ ⟨_, rfl, _⟩
      exact Spot.Before.of_row rfl rfl (Nat.succ_lt_succ below)
  -- The key itself has the row before those of its postings.
  apply (key.append docs ?_).congr
  · intro s v
    rw [EntryFault, String.isEmpty_iff]
  · rintro s t v w ⟨_, rfl, _⟩ ⟨_, number, _, _, rfl, _⟩
    exact Spot.Before.of_row rfl rfl (Nat.succ_pos number)

theorem reports_terms (index : SearchIndex) (field : TermField) :
    Reports (((index.termMap? field).map (checkTerms field index.docnames.length)).getD [])
      fun s v => index.FaultAt s v ∧ s.check = .terms field := by
  have entries (terms : KeyMap Postings) : Reports (checkTerms field index.docnames.length terms)
      fun s v => ∃ entry ∈ terms.entries, index.EntryFault field entry s v := by
    apply Reports.flatMap
    · exact fun entry _ => index.reports_entry field entry.1 entry.2
    · apply terms.ascending.imp
      intro a b below s t v w first second
      apply Spot.Before.of_key (first.place.1.trans second.place.1.symm)
      rwa [first.place.2, second.place.2]
  exact (Reports.optional _ entries).congr fun s v => faultAt_terms_iff.symm

def ObjectFault (index : SearchIndex) (object : String × ObjectEntry) (number : Nat) (spot : Spot)
    (violation : Violation) : Prop :=
  ((index.docnames.length ≤ object.2.doc.toNat ∧ spot = .objectPage number ∧
      violation = .objectDocOutOfRange (fullName object.1 object.2.name) object.2.doc.toNat
        index.docnames.length) ∨
    (¬ index.ListsType .objtypes (typeKey object.2.objtype) ∧ spot = .objectType number .objtypes ∧
      violation = .unknownObjectType (fullName object.1 object.2.name) object.2.objtype.toNat
        .objtypes)) ∨
    (¬ index.ListsType .objnames (typeKey object.2.objtype) ∧ spot = .objectType number .objnames ∧
      violation = .unknownObjectType (fullName object.1 object.2.name) object.2.objtype.toNat
        .objnames)

theorem ObjectFault.place {object : String × ObjectEntry} {number : Nat}
    (fault : index.ObjectFault object number spot violation) :
    spot.check = .objects ∧ spot.position.1 = "" ∧ spot.position.2.1 = number := by
  rcases fault with (⟨_, rfl, _⟩ | ⟨_, rfl, _⟩) | ⟨_, rfl, _⟩ <;> exact ⟨rfl, rfl, rfl⟩

theorem faultAt_objects_iff :
    index.FaultAt spot violation ∧ spot.check = .objects ↔
      ∃ object number, index.entries[number]? = some object ∧
        index.ObjectFault object number spot violation := by
  constructor
  · rintro ⟨fault, here⟩
    cases fault with
    | objectPage listed outside =>
      exact ⟨_, _, listed, Or.inl (Or.inl ⟨outside, rfl, rfl⟩)⟩
    | @objectType number scope entry table listed missing =>
      cases table with
      | objtypes => exact ⟨_, _, listed, Or.inl (Or.inr ⟨missing, rfl, rfl⟩)⟩
      | objnames => exact ⟨_, _, listed, Or.inr ⟨missing, rfl, rfl⟩⟩
    | _ => cases here
  · rintro ⟨⟨scope, entry⟩, number, listed,
      (⟨outside, rfl, rfl⟩ | ⟨missing, rfl, rfl⟩) | ⟨missing, rfl, rfl⟩⟩
    · exact ⟨.objectPage listed outside, rfl⟩
    · exact ⟨.objectType listed missing, rfl⟩
    · exact ⟨.objectType listed missing, rfl⟩

theorem hasType_iff {α : Type} {table : Option (KeyMap α)} {objtype : UInt64} :
    hasType table objtype = true ↔
      ∃ keys, table.map KeyMap.keys = some keys ∧ typeKey objtype ∈ keys := by
  cases table with
  | none => simp [hasType]
  | some map => simp [hasType, KeyMap.contains_iff]

theorem reports_object (index : SearchIndex) (object : String × ObjectEntry) (number : Nat) :
    Reports (index.checkEntry object.1 object.2) (index.ObjectFault object number) := by
  let fullname := fullName object.1 object.2.name
  have page := Reports.when (index.docnames.length ≤ object.2.doc.toNat) (.objectPage number)
    (.objectDocOutOfRange fullname object.2.doc.toNat index.docnames.length)
  have objtypes := Reports.whenNot (hasType index.objtypes object.2.objtype = true)
    (.objectType number .objtypes)
    (.unknownObjectType fullname object.2.objtype.toNat .objtypes)
  have objnames := Reports.whenNot (hasType index.objnames object.2.objtype = true)
    (.objectType number .objnames)
    (.unknownObjectType fullname object.2.objtype.toNat .objnames)
  apply ((page.append objtypes ?_).append objnames ?_).congr
  · intro s v
    rw [hasType_iff, hasType_iff]
    rfl
  · rintro s t v w ⟨_, rfl, _⟩ ⟨_, rfl, _⟩
    exact Spot.Before.of_step rfl rfl rfl Nat.zero_lt_one
  · rintro s t v w (⟨_, rfl, _⟩ | ⟨_, rfl, _⟩) ⟨_, rfl, _⟩
    · exact Spot.Before.of_step rfl rfl rfl Nat.zero_lt_two
    · exact Spot.Before.of_step rfl rfl rfl Nat.one_lt_two

theorem reports_objects (index : SearchIndex) :
    Reports (index.entries.flatMap fun (scope, entry) => index.checkEntry scope entry)
      fun s v => index.FaultAt s v ∧ s.check = .objects := by
  have objects : Reports (index.entries.flatMap fun (scope, entry) => index.checkEntry scope entry)
      fun s v => ∃ object number, index.entries[number]? = some object ∧
        index.ObjectFault object number s v := by
    apply Reports.numbered
    · exact index.reports_object
    · intro a b i j below s t v w first second
      obtain ⟨check, key, row⟩ := first.place
      obtain ⟨check', key', row'⟩ := second.place
      apply Spot.Before.of_row (check.trans check'.symm) (key.trans key'.symm)
      rwa [row, row']
  exact objects.congr fun s v => faultAt_objects_iff.symm

theorem faultAt_types_iff {table : TypeTable} :
    index.FaultAt spot violation ∧ spot.check = .types table ↔
      ∃ keys others, index.typeKeys? table = some keys ∧
        index.typeKeys? table.other = some others ∧ ∃ key ∈ keys, key ∉ others ∧
          spot = .typeKey table key ∧
          violation = .objectTypeTableMismatch key table table.other := by
  constructor
  · rintro ⟨fault, here⟩
    cases fault with
    | typeKey own opposite listed missing =>
      cases here
      exact ⟨_, _, own, opposite, _, listed, missing, rfl, rfl⟩
    | _ => cases here
  · rintro ⟨keys, others, own, opposite, key, listed, missing, rfl, rfl⟩
    exact ⟨.typeKey own opposite listed missing, rfl⟩

theorem typeKeys_ascending {table : TypeTable} {keys : List String}
    (found : index.typeKeys? table = some keys) : keys.Pairwise (· < ·) := by
  cases table with
  | objtypes =>
    obtain ⟨map, _, rfl⟩ := Option.map_eq_some_iff.1 found
    exact map.keys_ascending
  | objnames =>
    obtain ⟨map, _, rfl⟩ := Option.map_eq_some_iff.1 found
    exact map.keys_ascending

def unmatchedTypes (index : SearchIndex) (table : TypeTable) : List Violation :=
  match index.typeKeys? table, index.typeKeys? table.other with
  | some keys, some others =>
    (keys.filter (· ∉ others)).map (.objectTypeTableMismatch · table table.other)
  | _, _ => []

theorem reports_types (index : SearchIndex) (table : TypeTable) :
    Reports (index.unmatchedTypes table)
      fun s v => index.FaultAt s v ∧ s.check = .types table := by
  unfold unmatchedTypes
  split
  · rename_i keys others own opposite
    have unmatched : Reports ((keys.filter (· ∉ others)).map
        (.objectTypeTableMismatch · table table.other)) fun s v =>
          ∃ key ∈ keys, key ∉ others ∧ s = .typeKey table key ∧
            v = .objectTypeTableMismatch key table table.other := by
      rw [map_filter_eq_flatMap]
      apply Reports.flatMap
      · exact fun key _ => Reports.when _ _ _
      · apply (typeKeys_ascending own).imp
        rintro a b below s t v w ⟨_, rfl, _⟩ ⟨_, rfl, _⟩
        exact Spot.Before.of_key rfl below
    apply unmatched.congr
    intro s v
    rw [faultAt_types_iff, own, opposite]
    simp
  · rename_i absent
    apply Reports.nil
    intro s v fault
    obtain ⟨keys, others, own, opposite, _⟩ := faultAt_types_iff.1 fault
    exact absent keys others own opposite

def violationsOf (index : SearchIndex) : Check → List Violation
  | .pages field =>
    ((index.pageList? field).map (checkLength field index.docnames.length ·.length)).getD []
  | .terms field =>
    ((index.termMap? field).map (checkTerms field index.docnames.length)).getD []
  | .objects => index.entries.flatMap fun (scope, entry) => index.checkEntry scope entry
  | .types table => index.unmatchedTypes table

theorem reports_violationsOf (index : SearchIndex) (check : Check) :
    Reports (index.violationsOf check) fun s v => index.FaultAt s v ∧ s.check = check := by
  cases check with
  | pages field => exact index.reports_pages field
  | terms field => exact index.reports_terms field
  | objects => exact index.reports_objects
  | types table => exact index.reports_types table

theorem checkTables_eq (objtypes : KeyMap String) (objnames : KeyMap ObjectName) :
    checkTables objtypes objnames =
      (objtypes.keys.filter (· ∉ objnames.keys)).map
          (.objectTypeTableMismatch · .objtypes .objnames) ++
        (objnames.keys.filter (· ∉ objtypes.keys)).map
          (.objectTypeTableMismatch · .objnames .objtypes) := by
  have lacks {α : Type} (map : KeyMap α) (key : String) :
      (!map.contains key) = decide (key ∉ map.keys) := by
    rw [Bool.eq_iff_iff]
    simp [← KeyMap.contains_iff]
  simp only [checkTables, lacks]

theorem violations_eq (index : SearchIndex) :
    index.violations = Check.all.flatMap index.violationsOf := by
  simp only [Check.all, List.flatMap_cons, List.flatMap_nil, List.append_nil,
    ← List.append_assoc]
  rw [List.append_assoc _ (index.violationsOf (.types .objtypes)), violations]
  congr 1
  simp only [violationsOf, unmatchedTypes, typeKeys?, TypeTable.other]
  cases index.objtypes with
  | none => cases index.objnames <;> rfl
  | some objtypes =>
    cases index.objnames with
    | none => rfl
    | some objnames => exact checkTables_eq objtypes objnames

theorem reports_violations (index : SearchIndex) : Reports index.violations index.FaultAt := by
  rw [violations_eq]
  have parts := Reports.flatMap (fun check (_ : check ∈ Check.all) =>
    index.reports_violationsOf check) (Check.all_ascending.imp ?_)
  · apply parts.congr
    intro s v
    simp [Check.mem_all]
  · rintro a b below s t v w ⟨_, rfl⟩ ⟨_, rfl⟩
    exact Or.inl below

theorem mem_violations : violation ∈ index.violations ↔ ∃ spot, index.FaultAt spot violation := by
  obtain ⟨faults, listed, _, members⟩ := index.reports_violations
  rw [← listed, List.mem_map]
  simp [members]

theorem intact_iff : index.Intact ↔ ∀ spot violation, ¬ index.FaultAt spot violation := by
  constructor
  · intro intact spot violation fault
    cases fault with
    | length present differs => exact differs (intact.lengths _ _ present)
    | emptyKey present entry =>
      exact intact.keys _ _ present (List.mem_map_of_mem entry)
    | posting present entry named outside =>
      have := intact.postings _ _ present _ _ entry _ (List.mem_of_getElem? named)
      omega
    | objectPage listed outside =>
      have := intact.objectPages _ _ (List.mem_of_getElem? listed)
      omega
    | objectType listed missing =>
      exact missing (intact.objectTypes _ _ (List.mem_of_getElem? listed) _)
    | @typeKey table keys others key own opposite listed missing =>
      cases table with
      | objtypes => exact missing ((intact.tables _ _ own opposite key).1 listed)
      | objnames => exact missing ((intact.tables _ _ opposite own key).2 listed)
  · intro sound
    refine ⟨?_, ?_, ?_, ?_, ?_, ?_⟩
    · intro field names present
      exact Decidable.byContradiction fun differs => sound _ _ (.length present differs)
    · intro field terms present listed
      obtain ⟨⟨_, postings⟩, entry, rfl⟩ := List.mem_map.1 listed
      exact sound _ _ (.emptyKey present entry)
    · intro field terms present term postings entry doc member
      obtain ⟨number, named⟩ := List.mem_iff_getElem?.1 member
      exact Nat.not_le.1 fun outside => sound _ _ (.posting present entry named outside)
    · intro scope entry member
      obtain ⟨number, listed⟩ := List.mem_iff_getElem?.1 member
      exact Nat.not_le.1 fun outside => sound _ _ (.objectPage listed outside)
    · intro scope entry member table
      obtain ⟨number, listed⟩ := List.mem_iff_getElem?.1 member
      exact Classical.byContradiction fun missing => sound _ _ (.objectType listed missing)
    · intro keys others own opposite key
      constructor
      · intro listed
        exact Decidable.byContradiction fun missing =>
          sound _ _ (.typeKey own opposite listed missing)
      · intro listed
        exact Decidable.byContradiction fun missing =>
          sound _ _ (.typeKey opposite own listed missing)

theorem isValid_iff : index.validate.isValid = true ↔ index.Intact := by
  have empty : index.validate.isValid = true ↔ index.violations = [] := List.isEmpty_iff
  rw [empty, intact_iff, List.eq_nil_iff_forall_not_mem]
  simp only [mem_violations, not_exists]
  exact forall_comm

/-- The errors of a report are the violations of all faulty spots, one for each, in the order of the
spots, and no other list is. So an index is valid exactly if it keeps all rules. -/
theorem validate_exact (index : SearchIndex) :
    (∀ errors, Reports errors index.FaultAt ↔ errors = index.validate.errors) ∧
      (index.validate.isValid = true ↔ index.Intact) := by
  refine ⟨fun errors => ⟨?_, ?_⟩, isValid_iff⟩
  · exact fun reports => reports.unique index.reports_violations
  · rintro rfl
    exact index.reports_violations

def brokenSite : SearchIndex where
  docnames := ["a", "b"]
  filenames := none
  titles := ["A"]
  terms := .ofList [("", .single 0), ("grid", .list [5, 1, 5])]
  titleterms := none
  objects := some (.listed (.ofList [("layout", [⟨"Cell", 2, 1, 1, ""⟩])]))
  objtypes := some (.ofList [("1", "py:class")])
  objnames := some (.ofList [])
  envversion := none
  extra := .empty

example : brokenSite.validate.errors =
    [.lengthMismatch .titles 2 1, .emptyTerm .terms, .postingOutOfRange .terms "grid" 5 2,
      .postingOutOfRange .terms "grid" 5 2, .objectDocOutOfRange "layout.Cell" 2 2,
      .unknownObjectType "layout.Cell" 1 .objnames,
      .objectTypeTableMismatch "1" .objtypes .objnames] := by
  decide +kernel

end DocSearch.SearchIndex
