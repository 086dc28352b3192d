import DocSearch.Literal.Basic

/- The search index of a documentation site: its pages, the postings of its terms and its objects.
Whichever of several encodings a file uses is part of the data, so that writing gives it back. -/
namespace DocSearch

/-- An occurrence of a term on a page. Only the trailing fields may be absent in a file. -/
structure Posting where
  doc : UInt64
  weight : Option Int64
  flags : Option Int64
  anchor : Option String
deriving DecidableEq

namespace Posting

def ofDoc (doc : UInt64) : Posting := ⟨doc, none, none, none⟩

def weightOrOne (p : Posting) : Int64 := p.weight.getD 1

def flagsOrZero (p : Posting) : Int64 := p.flags.getD 0

def anchorOrEmpty (p : Posting) : String := p.anchor.getD ""

end Posting

/-- The occurrences of one term, in one of three encodings. -/
inductive Postings
  | single (doc : UInt64)
  | list (docs : List UInt64)
  | detailed (records : List Posting)
deriving DecidableEq

namespace Postings

def docs : Postings → List Nat
  | .single doc => [doc.toNat]
  | .list docs => docs.map UInt64.toNat
  | .detailed records => records.map (·.doc.toNat)

def records : Postings → List Posting
  | .single doc => [.ofDoc doc]
  | .list docs => docs.map .ofDoc
  | .detailed records => records

def size (p : Postings) : Nat := p.docs.length

def contains (p : Postings) (doc : Nat) : Bool := p.docs.contains doc

end Postings

structure ObjectEntry where
  name : String
  doc : UInt64
  /-- Key of the two type tables. -/
  objtype : UInt64
  /-- Zero is important, one normal, two unimportant; a negative one hides the object. -/
  priority : Int64
  /-- Empty for the full name, a dash for role and full name. -/
  anchor : String
deriving DecidableEq

/-- The objects grouped by the scope that their names belong to, in one of two layouts. -/
inductive Objects
  | named (scopes : KeyMap (KeyMap ObjectEntry))
  | listed (scopes : KeyMap (List ObjectEntry))
deriving DecidableEq

namespace Objects

def entries : Objects → List (String × ObjectEntry)
  | .named scopes => scopes.entries.flatMap fun (scope, objects) => objects.values.map (scope, ·)
  | .listed scopes => scopes.entries.flatMap fun (scope, objects) => objects.map (scope, ·)

def size (objects : Objects) : Nat := objects.entries.length

end Objects

structure ObjectName where
  domain : String
  role : String
  label : String
deriving DecidableEq

inductive EnvVersion
  | schema (n : Int64)
  | extensions (versions : KeyMap Int64)
deriving DecidableEq

namespace EnvVersion

def builder? : EnvVersion → Option Int64
  | .schema n => some n
  | .extensions versions => versions.get? "sphinx"

def text : EnvVersion → String
  | .schema n => toString n.toInt
  | .extensions versions =>
    ", ".intercalate (versions.entries.map fun (key, n) => key ++ "=" ++ toString n.toInt)

end EnvVersion

structure SearchIndex where
  docnames : List String
  filenames : Option (List String)
  titles : List String
  terms : KeyMap Postings
  titleterms : Option (KeyMap Postings)
  objects : Option Objects
  objtypes : Option (KeyMap String)
  objnames : Option (KeyMap ObjectName)
  envversion : Option EnvVersion
  /-- The fields that no rule here interprets. -/
  extra : KeyMap Value
deriving DecidableEq

end DocSearch
