import DocSearch.Index.Decode
import DocSearch.Index.Encode
import DocSearch.Proofs.Except
import DocSearch.Proofs.KeyMap

/- An index field by field: it is read in two phases, first every field that is there, then whether
the fields that an index must have are among them; and it is written as an object whose members are
its fields and, under other names, what no rule interprets. -/
namespace DocSearch

namespace Decoder

theorem field?_eq_none {α : Type} {name : String} {decode : Decoder α}
    {values : List (String × Value)} :
    field? name decode values = .ok none ↔ values.lookup name = none := by
  unfold field?
  cases values.lookup name with
  | none => simp
  | some v => simp [map_eq_ok]

theorem field?_eq_some {α : Type} {name : String} {decode : Decoder α}
    {values : List (String × Value)} {a : α} :
    field? name decode values = .ok (some a) ↔
      ∃ v, values.lookup name = some v ∧ decode (.ofField name) v = .ok a := by
  unfold field?
  cases values.lookup name with
  | none => simp
  | some v => simp [map_eq_ok]

theorem field?_eq_error {α : Type} {name : String} {decode : Decoder α}
    {values : List (String × Value)} {e : ShapeError} :
    field? name decode values = .error e ↔
      ∃ v, values.lookup name = some v ∧ decode (.ofField name) v = .error e := by
  unfold field?
  cases values.lookup name with
  | none => simp
  | some v => simp [map_eq_error]

theorem present_eq_ok {α : Type} {name : String} {field : Option α} {a : α} :
    present name field = .ok a ↔ field = some a := by
  cases field with
  | none => simp [present, ofOption, fail]
  | some b => simp [present, ofOption]

end Decoder

structure Fields where
  docnames : Option (List String)
  envversion : Option EnvVersion
  filenames : Option (List String)
  objects : Option Objects
  objnames : Option (KeyMap ObjectName)
  objtypes : Option (KeyMap String)
  terms : Option (KeyMap Postings)
  titles : Option (List String)
  titleterms : Option (KeyMap Postings)

namespace Fields
open Decoder

structure ReadFrom (fields : Fields) (values : List (String × Value)) : Prop where
  docnames : field? "docnames" strings values = .ok fields.docnames
  envversion : field? "envversion" Decoder.envversion values = .ok fields.envversion
  filenames : field? "filenames" strings values = .ok fields.filenames
  objects : field? "objects" Decoder.objects values = .ok fields.objects
  objnames : field? "objnames" Decoder.objnames values = .ok fields.objnames
  objtypes : field? "objtypes" Decoder.objtypes values = .ok fields.objtypes
  terms : field? "terms" Decoder.terms values = .ok fields.terms
  titles : field? "titles" strings values = .ok fields.titles
  titleterms : field? "titleterms" Decoder.terms values = .ok fields.titleterms

/-- The first phase, in the key order of the fields. -/
def read (values : List (String × Value)) : Except ShapeError Fields := do
  let docnames ← field? "docnames" strings values
  let envversion ← field? "envversion" Decoder.envversion values
  let filenames ← field? "filenames" strings values
  let objects ← field? "objects" Decoder.objects values
  let objnames ← field? "objnames" Decoder.objnames values
  let objtypes ← field? "objtypes" Decoder.objtypes values
  let terms ← field? "terms" Decoder.terms values
  let titles ← field? "titles" strings values
  let titleterms ← field? "titleterms" Decoder.terms values
  return ⟨docnames, envversion, filenames, objects, objnames, objtypes, terms, titles, titleterms⟩

/-- The second phase, with the fields that no rule interprets. -/
def complete (fields : Fields) (extra : KeyMap Value) : Except ShapeError SearchIndex := do
  let docnames ← present "docnames" fields.docnames
  let titles ← present "titles" fields.titles
  let terms ← present "terms" fields.terms
  return { docnames, filenames := fields.filenames, titles, terms, titleterms := fields.titleterms,
           objects := fields.objects, objtypes := fields.objtypes, objnames := fields.objnames,
           envversion := fields.envversion, extra }

theorem read_eq_ok {values : List (String × Value)} {fields : Fields} :
    read values = .ok fields ↔ fields.ReadFrom values := by
  constructor
  · intro found
    obtain ⟨docnames, readDocnames, found⟩ := bind_eq_ok.1 found
    obtain ⟨envversion, readEnvversion, found⟩ := bind_eq_ok.1 found
    obtain ⟨filenames, readFilenames, found⟩ := bind_eq_ok.1 found
    obtain ⟨objects, readObjects, found⟩ := bind_eq_ok.1 found
    obtain ⟨objnames, readObjnames, found⟩ := bind_eq_ok.1 found
    obtain ⟨objtypes, readObjtypes, found⟩ := bind_eq_ok.1 found
    obtain ⟨terms, readTerms, found⟩ := bind_eq_ok.1 found
    obtain ⟨titles, readTitles, found⟩ := bind_eq_ok.1 found
    obtain ⟨titleterms, readTitleterms, found⟩ := bind_eq_ok.1 found
    cases pure_eq_ok.1 found
    exact ⟨readDocnames, readEnvversion, readFilenames, readObjects, readObjnames, readObjtypes,
      readTerms, readTitles, readTitleterms⟩
  · intro each
    simp only [read, each.docnames, each.envversion, each.filenames, each.objects, each.objnames,
      each.objtypes, each.terms, each.titles, each.titleterms, bind, Except.bind]
    rfl

end Fields

namespace SearchIndex

def fields (index : SearchIndex) : Fields where
  docnames := some index.docnames
  envversion := index.envversion
  filenames := index.filenames
  objects := index.objects
  objnames := index.objnames
  objtypes := index.objtypes
  terms := some index.terms
  titles := some index.titles
  titleterms := index.titleterms

def extraOf (values : List (String × Value)) : KeyMap Value :=
  .ofList (values.filter fun (key, _) => !fieldNames.contains key)

theorem lookup_extraOf {values : List (String × Value)} (ascending : Ascending values)
    (key : String) :
    (extraOf values).entries.lookup key = if key ∈ fieldNames then none else values.lookup key := by
  have rest : Ascending (values.filter fun (key, _) => !fieldNames.contains key) :=
    ascending.sublist List.filter_sublist
  rw [extraOf, KeyMap.entries_ofList rest,
    lookup_filter_keys (fun key => !fieldNames.contains key)]
  by_cases known : key ∈ fieldNames <;> simp [known]

end SearchIndex

theorem Fields.complete_eq_ok {fields : Fields} {extra : KeyMap Value} {index : SearchIndex} :
    fields.complete extra = .ok index ↔ fields = index.fields ∧ extra = index.extra := by
  constructor
  · intro made
    obtain ⟨docnames, hasDocnames, made⟩ := bind_eq_ok.1 made
    obtain ⟨titles, hasTitles, made⟩ := bind_eq_ok.1 made
    obtain ⟨terms, hasTerms, made⟩ := bind_eq_ok.1 made
    cases pure_eq_ok.1 made
    rw [Decoder.present_eq_ok] at hasDocnames hasTitles hasTerms
    obtain ⟨docnames?, _, _, _, _, _, terms?, titles?, _⟩ := fields
    subst hasDocnames hasTitles hasTerms
    exact ⟨rfl, rfl⟩
  · intro same
    obtain ⟨rfl, rfl⟩ := same
    rfl

namespace SearchIndex

theorem ofValue_object (values : List (String × Value)) :
    ofValue (.object values) = Fields.read values >>= (·.complete (extraOf values)) := by
  unfold ofValue Fields.read Fields.complete extraOf
  simp only [bind_assoc, pure_bind]

theorem ofValue_object_eq_ok {values : List (String × Value)} {index : SearchIndex} :
    ofValue (.object values) = .ok index ↔
      index.fields.ReadFrom values ∧ extraOf values = index.extra := by
  rw [ofValue_object]
  constructor
  · intro found
    obtain ⟨fields, readFields, made⟩ := bind_eq_ok.1 found
    obtain ⟨rfl, extra⟩ := Fields.complete_eq_ok.1 made
    exact ⟨Fields.read_eq_ok.1 readFields, extra⟩
  · intro each
    have read := Fields.read_eq_ok.2 each.1
    exact bind_eq_ok.2 ⟨index.fields, read, Fields.complete_eq_ok.2 ⟨rfl, each.2⟩⟩

end SearchIndex

/-- The members of an object hold the fields as they are written. -/
structure Fields.WrittenIn (fields : Fields) (values : List (String × Value)) : Prop where
  docnames : values.lookup "docnames" = fields.docnames.map .ofStrings
  envversion : values.lookup "envversion" = fields.envversion.map EnvVersion.toValue
  filenames : values.lookup "filenames" = fields.filenames.map .ofStrings
  objects : values.lookup "objects" = fields.objects.map Objects.toValue
  objnames : values.lookup "objnames" = fields.objnames.map (·.toObject ObjectName.toValue)
  objtypes : values.lookup "objtypes" = fields.objtypes.map (·.toObject .string)
  terms : values.lookup "terms" = fields.terms.map (·.toObject Postings.toValue)
  titles : values.lookup "titles" = fields.titles.map .ofStrings
  titleterms : values.lookup "titleterms" = fields.titleterms.map (·.toObject Postings.toValue)

theorem Fields.WrittenIn.lookup_eq {fields : Fields} {a b : List (String × Value)}
    (inA : fields.WrittenIn a) (inB : fields.WrittenIn b) :
    ∀ name ∈ SearchIndex.fieldNames, a.lookup name = b.lookup name := by
  simp [SearchIndex.fieldNames, inA.docnames, inB.docnames, inA.envversion, inB.envversion,
    inA.filenames, inB.filenames, inA.objects, inB.objects, inA.objnames, inB.objnames,
    inA.objtypes, inB.objtypes, inA.terms, inB.terms, inA.titles, inB.titles, inA.titleterms,
    inB.titleterms]

theorem lookup_placeField? {α : Type} (name : String) (encode : α → Value) (field : Option α)
    (members : List (String × Value)) (key : String) :
    (placeField? name encode field members).lookup key =
      if key = name then (field.map encode).or (members.lookup key) else members.lookup key := by
  cases field with
  | none => simp [placeField?]
  | some a => simp [placeField?, lookup_place]

theorem Ascending.placeField? {α : Type} {members : List (String × Value)}
    (ascending : Ascending members) (name : String) (encode : α → Value) (field : Option α) :
    Ascending (placeField? name encode field members) := by
  cases field with
  | none => exact ascending
  | some a => exact ascending.place name (encode a)

namespace SearchIndex

def members (index : SearchIndex) : List (String × Value) :=
  placeField? "envversion" EnvVersion.toValue index.envversion <|
  placeField? "objnames" (·.toObject ObjectName.toValue) index.objnames <|
  placeField? "objtypes" (·.toObject .string) index.objtypes <|
  placeField? "objects" Objects.toValue index.objects <|
  placeField? "titleterms" (·.toObject Postings.toValue) index.titleterms <|
  placeField? "filenames" .ofStrings index.filenames <|
  place "terms" (index.terms.toObject Postings.toValue) <|
  place "titles" (.ofStrings index.titles) <|
  place "docnames" (.ofStrings index.docnames) index.extra.entries

theorem toValue_eq (index : SearchIndex) : index.toValue = .object index.members := rfl

theorem ascending_members (index : SearchIndex) : Ascending index.members := by
  unfold members
  iterate 6 apply Ascending.placeField?
  iterate 3 apply Ascending.place
  exact index.extra.ascending

theorem lookup_members_of_new (index : SearchIndex) {key : String} (new : key ∉ fieldNames) :
    index.members.lookup key = index.extra.entries.lookup key := by
  simp only [fieldNames, List.mem_cons, List.not_mem_nil, or_false, not_or] at new
  simp only [members, lookup_placeField?, lookup_place, new, if_false]

def ExtraFree (index : SearchIndex) : Prop := ∀ name ∈ fieldNames, name ∉ index.extra.keys

theorem extraFree_iff {index : SearchIndex} :
    index.ExtraFree ↔ ∀ name ∈ fieldNames, index.extra.entries.lookup name = none := by
  unfold ExtraFree
  simp only [← KeyMap.contains_iff, KeyMap.contains, KeyMap.get?, Option.not_isSome_iff_eq_none]

theorem extraFree_of_extraOf {index : SearchIndex} {values : List (String × Value)}
    (ascending : Ascending values) (extra : extraOf values = index.extra) : index.ExtraFree := by
  rw [extraFree_iff, ← extra]
  intro name field
  rw [lookup_extraOf ascending, if_pos field]

theorem writtenIn_members {index : SearchIndex} (free : index.ExtraFree) :
    index.fields.WrittenIn index.members := by
  have absent := extraFree_iff.1 free
  simp only [fieldNames, List.forall_mem_cons] at absent
  constructor
  all_goals simp [members, lookup_placeField?, lookup_place, fields, absent]

theorem extraOf_members {index : SearchIndex} (free : index.ExtraFree) :
    extraOf index.members = index.extra := by
  apply KeyMap.eq_of_entries
  refine (extraOf index.members).ascending.ext index.extra.ascending fun key => ?_
  rw [lookup_extraOf index.ascending_members]
  by_cases known : key ∈ fieldNames
  · rw [if_pos known, extraFree_iff.1 free key known]
  · rw [if_neg known, lookup_members_of_new index known]

end SearchIndex
end DocSearch
