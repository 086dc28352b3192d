import DocSearch.Index.Lookup
import DocSearch.Text.Quoted

/- The integrity of an index: every violation is listed, in a fixed order and with multiplicity. -/
namespace DocSearch

inductive TermField
  | terms
  | titleterms
deriving DecidableEq, Repr

def TermField.name : TermField → String
  | .terms => "terms"
  | .titleterms => "titleterms"

inductive PageField
  | titles
  | filenames
deriving DecidableEq, Repr

def PageField.name : PageField → String
  | .titles => "titles"
  | .filenames => "filenames"

inductive TypeTable
  | objtypes
  | objnames
deriving DecidableEq, Repr

def TypeTable.name : TypeTable → String
  | .objtypes => "objtypes"
  | .objnames => "objnames"

inductive Violation
  | lengthMismatch (field : PageField) (expected actual : Nat)
  | postingOutOfRange (field : TermField) (term : String) (doc count : Nat)
  | emptyTerm (field : TermField)
  | objectDocOutOfRange (fullname : String) (doc count : Nat)
  | unknownObjectType (fullname : String) (objtype : Nat) (table : TypeTable)
  | objectTypeTableMismatch (key : String) (presentIn missingFrom : TypeTable)
deriving DecidableEq, Repr

namespace Violation

def message : Violation → String
  | .lengthMismatch field expected actual =>
    s!"{field.name} has {actual} entries but docnames has {expected}"
  | .postingOutOfRange field term doc count =>
    s!"{field.name} entry {Text.quoted term} references document {doc}, but only {count} documents exist"
  | .emptyTerm field => s!"{field.name} contains an empty term"
  | .objectDocOutOfRange fullname doc count =>
    s!"object {Text.quoted fullname} references document {doc}, but only {count} documents exist"
  | .unknownObjectType fullname objtype table =>
    s!"object {Text.quoted fullname} has type {objtype}, which is missing from {table.name}"
  | .objectTypeTableMismatch key presentIn missingFrom =>
    s!"object type {key} is listed in {presentIn.name} but not in {missingFrom.name}"

end Violation

inductive Warning
  | untestedSchema (n : Int)
  | noBuilderSchema
deriving DecidableEq, Repr

def testedSchemas : Int × Int := (50, 64)

def Warning.message : Warning → String
  | .untestedSchema n =>
    s!"environment schema {n} is outside the tested range {testedSchemas.1}..={testedSchemas.2}"
  | .noBuilderSchema => "envversion has no 'sphinx' entry"

structure Report where
  errors : List Violation
  warnings : List Warning
deriving DecidableEq, Repr

def Report.isValid (report : Report) : Bool := report.errors.isEmpty

namespace SearchIndex

def checkLength (field : PageField) (expected actual : Nat) : List Violation :=
  if actual = expected then [] else [.lengthMismatch field expected actual]

def checkTerms (field : TermField) (count : Nat) (terms : KeyMap Postings) : List Violation :=
  terms.entries.flatMap fun (term, postings) =>
    (if term.isEmpty then [.emptyTerm field] else []) ++
      (postings.docs.filter (count ≤ ·)).map (.postingOutOfRange field term · count)

def hasType {α : Type} (table : Option (KeyMap α)) (objtype : UInt64) : Bool :=
  (table.map (·.contains (typeKey objtype))).getD false

def checkEntry (index : SearchIndex) (scope : String) (entry : ObjectEntry) : List Violation :=
  let fullname := fullName scope entry.name
  let doc := entry.doc.toNat
  let objtype := entry.objtype.toNat
  let count := index.docnames.length
  (if count ≤ doc then [.objectDocOutOfRange fullname doc count] else []) ++
    (if hasType index.objtypes entry.objtype then []
      else [.unknownObjectType fullname objtype .objtypes]) ++
    (if hasType index.objnames entry.objtype then []
      else [.unknownObjectType fullname objtype .objnames])

def checkTables (objtypes : KeyMap String) (objnames : KeyMap ObjectName) : List Violation :=
  (objtypes.keys.filter (!objnames.contains ·)).map (.objectTypeTableMismatch · .objtypes .objnames) ++
    (objnames.keys.filter (!objtypes.contains ·)).map (.objectTypeTableMismatch · .objnames .objtypes)

def violations (index : SearchIndex) : List Violation :=
  let count := index.docnames.length
  checkLength .titles count index.titles.length ++
    (index.filenames.map (checkLength .filenames count ·.length)).getD [] ++
    checkTerms .terms count index.terms ++
    (index.titleterms.map (checkTerms .titleterms count)).getD [] ++
    index.entries.flatMap (fun (scope, entry) => index.checkEntry scope entry) ++
    (match index.objtypes, index.objnames with
      | some objtypes, some objnames => checkTables objtypes objnames
      | _, _ => [])

def warnings (index : SearchIndex) : List Warning :=
  match index.envversion.map EnvVersion.builder? with
  | none => []
  | some none => [.noBuilderSchema]
  | some (some n) =>
    if testedSchemas.1 ≤ n.toInt && n.toInt ≤ testedSchemas.2 then [] else [.untestedSchema n.toInt]

def validate (index : SearchIndex) : Report := ⟨index.violations, index.warnings⟩

end SearchIndex
end DocSearch
