import DocSearch.Index.Basic

/- Writing a search index as a value: each field in the encoding it was read in. -/
namespace DocSearch

/-- A later field is written only after all earlier ones, with a default for those absent. -/
def Posting.toValue (p : Posting) : Value :=
  let doc := Value.ofUInt64 p.doc
  let weight := Value.ofInt64 p.weightOrOne
  let flags := Value.ofInt64 p.flagsOrZero
  match p.weight, p.flags, p.anchor with
  | _, _, some anchor => .array [doc, weight, flags, .string anchor]
  | _, some _, none => .array [doc, weight, flags]
  | some _, none, none => .array [doc, weight]
  | none, none, none => .array [doc]

def Postings.toValue : Postings → Value
  | .single doc => .ofUInt64 doc
  | .list docs => .array (docs.map .ofUInt64)
  | .detailed records => .array (records.map Posting.toValue)

def KeyMap.toObject {α : Type} (encode : α → Value) (map : KeyMap α) : Value :=
  .object (map.entries.map fun (key, a) => (key, encode a))

def ObjectEntry.fields (entry : ObjectEntry) : List Value :=
  [.ofUInt64 entry.doc, .ofUInt64 entry.objtype, .ofInt64 entry.priority, .string entry.anchor]

def ObjectEntry.toNamedValue (entry : ObjectEntry) : Value := .array entry.fields

def ObjectEntry.toListedValue (entry : ObjectEntry) : Value :=
  .array (entry.fields ++ [.string entry.name])

def Objects.toValue : Objects → Value
  | .named scopes => scopes.toObject (·.toObject ObjectEntry.toNamedValue)
  | .listed scopes => scopes.toObject fun entries => .array (entries.map ObjectEntry.toListedValue)

def ObjectName.toValue (name : ObjectName) : Value :=
  .ofStrings [name.domain, name.role, name.label]

def EnvVersion.toValue : EnvVersion → Value
  | .schema n => .ofInt64 n
  | .extensions versions => versions.toObject .ofInt64

def placeField? {α : Type} (name : String) (encode : α → Value) (field : Option α)
    (members : List (String × Value)) : List (String × Value) :=
  match field with
  | none => members
  | some a => place name (encode a) members

namespace SearchIndex

def toValue (index : SearchIndex) : Value :=
  let members := place "docnames" (.ofStrings index.docnames) index.extra.entries
  let members := place "titles" (.ofStrings index.titles) members
  let members := place "terms" (index.terms.toObject Postings.toValue) members
  let members := placeField? "filenames" .ofStrings index.filenames members
  let members := placeField? "titleterms" (·.toObject Postings.toValue) index.titleterms members
  let members := placeField? "objects" Objects.toValue index.objects members
  let members := placeField? "objtypes" (·.toObject .string) index.objtypes members
  let members := placeField? "objnames" (·.toObject ObjectName.toValue) index.objnames members
  .object (placeField? "envversion" EnvVersion.toValue index.envversion members)

end SearchIndex
end DocSearch
