import DocSearch.Index.Basic
import DocSearch.Index.Shape

/- Reading a value as a search index. Of several flaws the one reported stands first in the key
order of the fields; a missing field is reported only when all present ones have their shape. -/
namespace DocSearch

/-- A decoder reports a value that lacks its shape by the path to it. -/
abbrev Decoder (α : Type) := Path → Value → Except ShapeError α

namespace Decoder

def fail {α : Type} (path : Path) (expected : Shape) : Except ShapeError α := .error ⟨path, expected⟩

def ofOption {α : Type} (path : Path) (expected : Shape) : Option α → Except ShapeError α
  | some a => .ok a
  | none => fail path expected

def docNumber : Decoder UInt64 := fun path value => ofOption path .docNumber value.toUInt64?

def string : Decoder String := fun path value => ofOption path .string value.toString?

def integer (expected : Shape) : Decoder Int64 := fun path value =>
  ofOption path expected value.toInt64?

def items {α : Type} (decode : Decoder α) (path : Path) : (i : Nat) → List Value →
    Except ShapeError (List α)
  | _, [] => .ok []
  | i, value :: values => do
    let a ← decode (path.item i) value
    let rest ← items decode path (i + 1) values
    return a :: rest

def members {α : Type} (decode : String → Decoder α) (path : Path) : List (String × Value) →
    Except ShapeError (List (String × α))
  | [] => .ok []
  | (key, value) :: values => do
    let a ← decode key (path.member key) value
    let rest ← members decode path values
    return (key, a) :: rest

def list {α : Type} (expected : Shape) (decode : Decoder α) : Decoder (List α)
  | path, .array values => items decode path 0 values
  | path, _ => fail path expected

def keyed {α : Type} (expected : Shape) (decode : String → Decoder α) : Decoder (KeyMap α)
  | path, .object values => (members decode path values).map .ofList
  | path, _ => fail path expected

def strings : Decoder (List String) := list .stringList string

def posting : Decoder Posting
  | path, .array [doc] => do return ⟨← docNumber (path.item 0) doc, none, none, none⟩
  | path, .array [doc, weight] => do
    let doc ← docNumber (path.item 0) doc
    let weight ← integer .weight (path.item 1) weight
    return ⟨doc, some weight, none, none⟩
  | path, .array [doc, weight, flags] => do
    let doc ← docNumber (path.item 0) doc
    let weight ← integer .weight (path.item 1) weight
    let flags ← integer .flags (path.item 2) flags
    return ⟨doc, some weight, some flags, none⟩
  | path, .array [doc, weight, flags, anchor] => do
    let doc ← docNumber (path.item 0) doc
    let weight ← integer .weight (path.item 1) weight
    let flags ← integer .flags (path.item 2) flags
    let anchor ← string (path.item 3) anchor
    return ⟨doc, some weight, some flags, some anchor⟩
  | path, _ => fail path .postingRecord

/-- A list with an array in it holds records, any other one page numbers. -/
def postings : Decoder Postings
  | path, .number n => (docNumber path (.number n)).map .single
  | path, .array values =>
    if values.any Value.isArray then (items posting path 0 values).map .detailed
    else (items docNumber path 0 values).map .list
  | path, _ => fail path .postings

def terms : Decoder (KeyMap Postings) := keyed .termObject fun _ => postings

def objectFields (name : String) (path : Path) (doc objtype priority anchor : Value) :
    Except ShapeError ObjectEntry := do
  let doc ← docNumber (path.item 0) doc
  let objtype ← docNumber (path.item 1) objtype
  let priority ← integer .priority (path.item 2) priority
  let anchor ← string (path.item 3) anchor
  return ⟨name, doc, objtype, priority, anchor⟩

def namedObject (name : String) : Decoder ObjectEntry
  | path, .array [doc, objtype, priority, anchor] =>
    objectFields name path doc objtype priority anchor
  | path, _ => fail path .namedRecord

/-- The name comes last in the record and is looked at first. -/
def listedObject : Decoder ObjectEntry
  | path, .array [doc, objtype, priority, anchor, name] => do
    let name ← string (path.item 4) name
    objectFields name path doc objtype priority anchor
  | path, _ => fail path .listedRecord

/-- The value in the smallest scope decides which layout all of them must have. -/
def objects : Decoder Objects
  | path, .object values =>
    if (values.head?.map (·.2.isArray)).getD false then
      (keyed .scopeObject (fun _ => list .recordList listedObject) path (.object values)).map .listed
    else
      (keyed .scopeObject (fun _ => keyed .nameObject namedObject) path (.object values)).map .named
  | path, _ => fail path .scopeObject

def objtypes : Decoder (KeyMap String) := keyed .typeObject fun _ => string

def objectName : Decoder ObjectName := fun path value => do
  match ← strings path value with
  | [domain, role, label] => return ⟨domain, role, label⟩
  | _ => fail path .objectName

def objnames : Decoder (KeyMap ObjectName) := keyed .typeObject fun _ => objectName

def envversion : Decoder EnvVersion
  | path, .number n => (integer .integer path (.number n)).map .schema
  | path, .object values =>
    (keyed .integerOrObject (fun _ => integer .integer) path (.object values)).map .extensions
  | path, _ => fail path .integerOrObject

def field? {α : Type} (name : String) (decode : Decoder α) (values : List (String × Value)) :
    Except ShapeError (Option α) :=
  match values.lookup name with
  | none => .ok none
  | some value => (decode (.ofField name) value).map some

def present {α : Type} (name : String) : Option α → Except ShapeError α :=
  ofOption (.ofField name) .presentField

end Decoder

namespace SearchIndex

def fieldNames : List String :=
  ["docnames", "envversion", "filenames", "objects", "objnames", "objtypes", "terms", "titles",
   "titleterms"]

open Decoder in
def ofValue : Value → Except ShapeError SearchIndex
  | .object values => do
    let docnames ← field? "docnames" strings values
    let envversion ← field? "envversion" Decoder.envversion values
    let filenames ← field? "filenames" strings values
    let objects ← field? "objects" Decoder.objects values
    let objnames ← field? "objnames" Decoder.objnames values
    let objtypes ← field? "objtypes" Decoder.objtypes values
    let terms ← field? "terms" Decoder.terms values
    let titles ← field? "titles" strings values
    let titleterms ← field? "titleterms" Decoder.terms values
    let docnames ← present "docnames" docnames
    let titles ← present "titles" titles
    let terms ← present "terms" terms
    let extra := .ofList (values.filter fun (key, _) => !fieldNames.contains key)
    return { docnames, filenames, titles, terms, titleterms, objects, objtypes, objnames,
             envversion, extra }
  | _ => fail .root .object

end SearchIndex
end DocSearch
