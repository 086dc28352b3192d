import DocSearch.Answer.Ranking
import DocSearch.Index.Lookup

/- What a reader is told about one term, the pages it occurs on or similar terms, and about the objects of
one name, their types, pages and links. -/
namespace DocSearch.Answer

def isIndexed (index : SearchIndex) (term : String) : Bool :=
  (index.bodyPostings? term).isSome || (index.titlePostings? term).isSome

/-- The key for a word as a reader writes it: the word itself, in lowercase, or the stem of its
first part. -/
def termKey? [Stemmers] (index : SearchIndex) (language : Language) (term : String) : Option String :=
  let lower := Text.lowercase term
  if isIndexed index term then some term
  else if isIndexed index lower then some lower
  else match QueryTerms.words lower.toList with
    | [] => none
    | word :: _ =>
      let stemmed := String.ofList (language.stemWord word)
      if isIndexed index stemmed then some stemmed else none

def hitText (hit : TermHit) : String :=
  let posting := hit.posting
  let flags := posting.flagsOrZero.toInt
  let anchor := posting.anchorOrEmpty
  s!"  • {hit.document.title} ({hit.document.docname})" ++
    (if posting.weight.isSome || posting.flags.isSome then
      s!" weight {posting.weightOrOne.toInt}" ++ (if flags ≠ 0 then s!", flags {flags}" else "")
    else "") ++
    (if anchor.isEmpty then "" else " #" ++ anchor) ++ "\n"

def hitsText (heading : String) (hits : List TermHit) : String :=
  s!"{heading} ({hits.length}):\n" ++ String.join (hits.map hitText) ++ "\n"

def didYouMean (suggestions : List Suggestion) : String :=
  if suggestions.isEmpty then ""
  else lines (["", "Did you mean one of these?"] ++ suggestions.map fun s => "• `" ++ s.text ++ "`")

def suggestionLimit : Nat := 5

def lookupTerm [Stemmers] (index : SearchIndex) (language : Language) (term : String)
    (titlesOnly : Bool) : String :=
  match termKey? index language term with
  | none =>
    s!"Term '{term}' is not in the index.\n" ++
      didYouMean (suggest (Text.lowercase term) (indexedTerms index) suggestionLimit)
  | some key =>
    (if key = term then s!"Term '{key}':\n\n" else s!"Term '{term}' (indexed as '{key}'):\n\n") ++
      (if titlesOnly then "" else hitsText "Body matches" (index.lookupTerm key)) ++
      hitsText "Title matches" (index.lookupTitleTerm key)

def objectText (object : SiteObject) : String :=
  lines ([s!"`{object.fullname}` ({object.label}, priority {object.priority})"] ++
    (object.objtype.map ("  Type: " ++ ·)).toList ++
    [match object.document with
      | some document => s!"  Page: {document.title} ({document.docname})"
      | none => "  Page: <missing document>"] ++
    ((object.link? pageSuffix).map ("  Link: " ++ ·)).toList ++ [""])

def noObjectText (index : SearchIndex) (name : String) (resolved : Option String) : String :=
  s!"No object named '{name}' found.\n" ++
    (match resolved with
      | some resolved => s!"(resolved as configuration reference '{resolved}')\n"
      | none => "") ++
    didYouMean (suggest name (index.siteObjects.map (·.fullname)) suggestionLimit)

def objectsText (name : String) (resolved : Option String) (objects : List SiteObject) : String :=
  (match resolved with
    | some resolved => s!"Resolved '{name}' as '{resolved}'\n\n"
    | none => "") ++
    String.join (objects.map objectText)

def contextOf (context : Option String) : Except String (Option Namespace) :=
  match context with
  | none => .ok none
  | some text =>
    if Text.isAllBlank text then .ok none
    else match Namespace.parse? text with
      | some ns => .ok (some ns)
      | none => .error ("Invalid context: " ++ Namespace.invalidMessage text)

/-- The answer to a request for an object: its full name is tried first, then the name as a
configuration reference. The resolved form is mentioned only where it differs from the name. -/
def resolveObject (index : SearchIndex) (name : String) (context : Option String) :
    Except String String := do
  let name := String.ofList (Text.trim name.toList)
  match index.resolveObject name with
  | [] =>
    let context ← contextOf context
    match index.resolveConf? name none context with
    | none => return noObjectText index name none
    | some (ns, objects) =>
      let resolved := if ns.text = name then none else some ns.text
      if objects.isEmpty then return noObjectText index name resolved
      else return objectsText name resolved objects
  | objects => return objectsText name none objects

end DocSearch.Answer
