import DocSearch.Index.Lookup
import DocSearch.Query.Terms
import DocSearch.Search.Scorer
import DocSearch.Text.Lowercase

/- Ranked search, best first. Objects match by name: for some chunk of the query, the full name holds that
chunk and the object's description holds all others. Pages match by their words: enough of those of the
query occur on the page and none of the excluded ones. -/
namespace DocSearch

inductive ResultKind
  | object
  | page
deriving DecidableEq, Repr

def ResultKind.order : ResultKind → Nat
  | .object => 0
  | .page => 1

structure SearchResult where
  kind : ResultKind
  doc : Nat
  docname : String
  title : String
  anchor : Option String
  description : Option String
  filename : Option String
  score : Int64
deriving DecidableEq, Repr

namespace SearchResult

/-- The higher score first, then the smaller title in lowercase, then objects before pages. Results
that tie in all three rank either way. -/
def ranksBefore (a b : SearchResult) : Bool :=
  if a.score ≠ b.score then b.score < a.score
  else
    let left := Text.lowercase a.title
    let right := Text.lowercase b.title
    if left ≠ right then decide (left < right) else a.kind.order ≤ b.kind.order

/-- The best results of both kinds, at most `limit`; ties keep the order they come in. -/
def rank (objects pages : List SearchResult) (limit : Nat) : List SearchResult :=
  ((objects ++ pages).mergeSort ranksBefore).take limit

end SearchResult

namespace SearchIndex

def haystack (object : SiteObject) (document : Document) : List Char :=
  Text.lower
    (object.scope ++ " " ++ object.name ++ " " ++ object.label ++ " " ++ document.title).toList

def withOthers : (passed : List String) → List String → List (String × List String)
  | _, [] => []
  | passed, chunk :: rest => (chunk, passed ++ rest) :: withOthers (passed ++ [chunk]) rest

def objectResult? (scorer : Scorer) (chunk : String) (others : List String) (object : SiteObject) :
    Option SearchResult :=
  if object.priority < 0 then none else
    object.document.bind fun document =>
      let fullname := Text.lower object.fullname.toList
      if !Text.occursIn chunk.toList fullname then none
      else if !others.all (Text.occursIn ·.toList (haystack object document)) then none
      else some
        { kind := .object, doc := document.doc, docname := document.docname,
          title := object.fullname, anchor := some object.anchor,
          description := some (object.label ++ ", in " ++ document.title),
          filename := document.filename,
          score := scorer.objectName fullname chunk.toList + scorer.priority object.priority }

def sameObject (a b : SearchResult) : Bool :=
  a.doc == b.doc && a.anchor == b.anchor && a.title == b.title

/-- Adds a result at the end; one that is there already keeps its place and takes the higher score. -/
def addResult : List SearchResult → SearchResult → List SearchResult
  | [], result => [result]
  | old :: rest, result =>
    if sameObject old result then { old with score := max old.score result.score } :: rest
    else old :: addResult rest result

/-- The objects found, in the order they are first found: chunk by chunk, then in index order. -/
def objectResults (index : SearchIndex) (scorer : Scorer) (terms : QueryTerms) : List SearchResult :=
  ((withOthers [] terms.objects).flatMap fun (chunk, others) =>
    index.siteObjects.filterMap (objectResult? scorer chunk others)).foldl addResult []

abbrev Source := Postings × Int64

def titleMap (index : SearchIndex) : KeyMap Postings := index.titleterms.getD .empty

def exactSource (terms : KeyMap Postings) (word : String) (weight : Int64) : List Source :=
  match terms.get? word with
  | some postings => [(postings, weight)]
  | none => []

/-- The postings under the terms that hold the word, unless it is a term itself. -/
def partialSources (terms : KeyMap Postings) (word : String) (weight : Int64) : List Source :=
  if terms.contains word then []
  else (terms.entries.filter fun (key, _) => Text.occursIn word.toList key.toList).map
    fun (_, postings) => (postings, weight)

def isLong (word : String) : Bool := 2 < word.length

def sources (index : SearchIndex) (scorer : Scorer) (word : String) : List Source :=
  exactSource index.terms word scorer.term ++ exactSource index.titleMap word scorer.title ++
    (if isLong word then
      partialSources index.terms word scorer.partialTerm ++
        partialSources index.titleMap word scorer.partialTitle
    else [])

structure Tally where
  doc : Nat
  words : List String
  best : Int64
deriving DecidableEq, Repr

/-- Records an occurrence; the tallies ascend by page. -/
def recordHit (word : String) (weight : Int64) (doc : Nat) : List Tally → List Tally
  | [] => [⟨doc, [word], weight⟩]
  | tally :: rest =>
    if doc < tally.doc then ⟨doc, [word], weight⟩ :: tally :: rest
    else if doc = tally.doc then
      ⟨doc, QueryTerms.addNew tally.words word, max tally.best weight⟩ :: rest
    else tally :: recordHit word weight doc rest

def recordSource (word : String) (tallies : List Tally) (source : Source) : List Tally :=
  source.1.docs.foldl (fun tallies doc => recordHit word source.2 doc tallies) tallies

/-- Counts word by word up to the first one without a source, which no page can have. -/
def countWords (index : SearchIndex) (scorer : Scorer) : List String → List Tally → List Tally
  | [], tallies => tallies
  | word :: words, tallies =>
    match index.sources scorer word with
    | [] => tallies
    | found => countWords index scorer words (found.foldl (recordSource word) tallies)

def isExcluded (index : SearchIndex) (terms : QueryTerms) (doc : Nat) : Bool :=
  terms.excluded.any fun word =>
    ((index.bodyPostings? word).map (·.contains doc)).getD false ||
      ((index.titlePostings? word).map (·.contains doc)).getD false

/-- All words are required, or as many words as there are long ones. -/
def hasEnough (terms : QueryTerms) (tally : Tally) : Bool :=
  tally.words.length = terms.search.length ||
    tally.words.length = (terms.search.filter isLong).length

def pageResult? (index : SearchIndex) (terms : QueryTerms) (tally : Tally) : Option SearchResult :=
  if !hasEnough terms tally || index.isExcluded terms tally.doc then none
  else (index.document? tally.doc).map fun document =>
    { kind := .page, doc := tally.doc, docname := document.docname, title := document.title,
      anchor := none, description := none, filename := document.filename, score := tally.best }

def pageResults (index : SearchIndex) (scorer : Scorer) (terms : QueryTerms) : List SearchResult :=
  (index.countWords scorer terms.search []).filterMap (index.pageResult? terms)

def search [Stemmers] (index : SearchIndex) (scorer : Scorer) (language : Language) (query : String)
    (limit : Nat) : List SearchResult :=
  let terms := QueryTerms.parse language query
  if terms.isEmpty then []
  else SearchResult.rank (index.objectResults scorer terms) (index.pageResults scorer terms) limit

end SearchIndex
end DocSearch
