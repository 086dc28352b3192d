import DocSearch.Index.Decode
import DocSearch.Index.Encode
import DocSearch.Literal.Printer
import DocSearch.Namespace.Parser

/- Questions to a search index: pages, the postings of a term, objects with their links, and configuration
references: a name, perhaps in part, that stands in a context and means the configuration objects of one
full name. -/
namespace DocSearch

structure Document where
  doc : Nat
  docname : String
  title : String
  filename : Option String
deriving DecidableEq, Repr

structure TermHit where
  document : Document
  posting : Posting
deriving DecidableEq

/-- An object with its full name, its types and its anchor; an object whose page is missing has
no link. -/
structure SiteObject where
  scope : String
  name : String
  fullname : String
  objtype : Option String
  kind : Option ObjectName
  priority : Int
  anchor : String
  document : Option Document
deriving DecidableEq

namespace SiteObject

def label (object : SiteObject) : String :=
  match object.kind, object.objtype with
  | some kind, _ => kind.label
  | none, some objtype => objtype
  | none, none => "object"

def link? (suffix : String) (object : SiteObject) : Option String :=
  object.document.map fun document =>
    if object.anchor.isEmpty then document.docname ++ suffix
    else document.docname ++ suffix ++ "#" ++ object.anchor

end SiteObject

structure Summary where
  documents : Nat
  terms : Nat
  titleTerms : Nat
  objects : Nat
  objectsByType : KeyMap Nat
  envversion : Option EnvVersion

namespace SearchIndex

/-- A page needs a name; its title is empty and its file unknown where the lists end early. -/
def document? (index : SearchIndex) (doc : Nat) : Option Document :=
  (index.docnames[doc]?).map fun docname =>
    { doc, docname, title := (index.titles[doc]?).getD "", filename := index.filenames.bind (·[doc]?) }

def documents (index : SearchIndex) : List Document :=
  (List.range index.docnames.length).filterMap index.document?

def findDocument? (index : SearchIndex) (docname : String) : Option Document :=
  (index.docnames.findIdx? (· == docname)).bind index.document?

/-- Postings on pages that do not exist are left out. -/
def hits (index : SearchIndex) (postings : Option Postings) : List TermHit :=
  (postings.map Postings.records).getD [] |>.filterMap fun posting =>
    (index.document? posting.doc.toNat).map fun document => { document, posting }

def bodyPostings? (index : SearchIndex) (term : String) : Option Postings := index.terms.get? term

def titlePostings? (index : SearchIndex) (term : String) : Option Postings :=
  index.titleterms.bind (·.get? term)

def lookupTerm (index : SearchIndex) (term : String) : List TermHit :=
  index.hits (index.bodyPostings? term)

def lookupTitleTerm (index : SearchIndex) (term : String) : List TermHit :=
  index.hits (index.titlePostings? term)

def entries (index : SearchIndex) : List (String × ObjectEntry) :=
  (index.objects.map Objects.entries).getD []

def typeKey (objtype : UInt64) : String := toString objtype.toNat

def fullName (scope name : String) : String := if scope.isEmpty then name else scope ++ "." ++ name

def anchorOf (kind : Option ObjectName) (fullname anchor : String) : String :=
  if anchor.isEmpty then fullname
  else if anchor = "-" then
    match kind with
    | some kind => kind.role ++ "-" ++ fullname
    | none => fullname
  else anchor

def resolveEntry (index : SearchIndex) (scope : String) (entry : ObjectEntry) : SiteObject :=
  let fullname := fullName scope entry.name
  let key := typeKey entry.objtype
  let kind := index.objnames.bind (·.get? key)
  { scope, name := entry.name, fullname, objtype := index.objtypes.bind (·.get? key), kind,
    priority := entry.priority.toInt, anchor := anchorOf kind fullname entry.anchor,
    document := index.document? entry.doc.toNat }

def siteObjects (index : SearchIndex) : List SiteObject :=
  index.entries.map fun (scope, entry) => index.resolveEntry scope entry

def resolveObject (index : SearchIndex) (fullname : String) : List SiteObject :=
  index.siteObjects.filter (·.fullname == fullname)

/-- A text that names at most one component is that component of the role's kind, as written. -/
def readReference? (target : String) (role : Option Kind) : Option Namespace :=
  (Namespace.parse? target).map fun reference =>
    match role with
    | some kind =>
      if reference.populated.length < 2 then Namespace.single kind target else reference
    | none => reference

def isConfObject (object : SiteObject) : Bool :=
  (object.objtype.map (Text.beginsWith Kind.domain)).getD false

def confObjects (index : SearchIndex) (ns : Namespace) : List SiteObject :=
  (index.siteObjects.filter isConfObject).filter (·.fullname == ns.text)

def resolveConf? (index : SearchIndex) (target : String) (role : Option Kind)
    (context : Option Namespace) : Option (Namespace × List SiteObject) :=
  (readReference? target role).map fun reference =>
    let resolved := (context.map reference.relativeTo).getD reference
    (resolved, index.confObjects resolved)

def typeName (object : SiteObject) : String := object.objtype.getD "unknown"

def tally (counts : KeyMap Nat) (key : String) : KeyMap Nat :=
  counts.insert key ((counts.get? key).getD 0 + 1)

def summary (index : SearchIndex) : Summary :=
  let objects := index.siteObjects
  { documents := index.docnames.length
    terms := index.terms.size
    titleTerms := (index.titleterms.map KeyMap.size).getD 0
    objects := objects.length
    objectsByType := (objects.map typeName).foldl tally .empty
    envversion := index.envversion }

def toText (index : SearchIndex) (dialect : Dialect) : String :=
  Literal.writeCall dialect index.toValue

end SearchIndex

inductive ReadError
  | text (e : Literal.SyntaxError)
  | shape (e : ShapeError)

def ReadError.message : ReadError → String
  | .text e => e.message
  | .shape e => e.message

def SearchIndex.parse (source : String) : Except ReadError (SearchIndex × Dialect) :=
  match Literal.parse source with
  | .error e => .error (.text e)
  | .ok (value, dialect) =>
    match SearchIndex.ofValue value with
    | .error e => .error (.shape e)
    | .ok index => .ok (index, dialect)

end DocSearch
