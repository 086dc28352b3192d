import DocSearch.Query.Language
import DocSearch.Text.Alphanumeric
import DocSearch.Text.Basic
import DocSearch.Text.Lowercase

/- The terms of a query: words to find, words to exclude, and chunks to find in object names. -/
namespace DocSearch

structure QueryTerms where
  /-- Stems that every page must have. -/
  search : List String
  /-- Stems that no page may have. -/
  excluded : List String
  /-- The chunks between blanks, in lowercase. -/
  objects : List String
deriving DecidableEq, Repr

namespace QueryTerms

def empty : QueryTerms := ⟨[], [], []⟩

def isEmpty (terms : QueryTerms) : Bool := terms.search.isEmpty && terms.objects.isEmpty

def englishStopWords : List String :=
  ["a", "and", "are", "as", "at", "be", "but", "by", "for", "if", "in", "into", "is", "it", "near",
   "no", "not", "of", "on", "or", "such", "that", "the", "their", "then", "there", "these", "they",
   "this", "to", "was", "will", "with"]

def stopWords : Language → List String
  | .english => englishStopWords
  | _ => []

def separatesWords (c : Char) : Bool := !(Text.isAlphanumeric c || c == '_')

def words (s : List Char) : List (List Char) := Text.pieces separatesWords s

def addNew (terms : List String) (term : String) : List String :=
  if terms.contains term then terms else terms ++ [term]

def stems [Stemmers] (language : Language) (s : List Char) : List String :=
  ((words s).filter fun word => !(stopWords language).contains (String.ofList word)).map fun word =>
    String.ofList (language.stemWord word)

/-- A chunk that begins with a dash excludes the words behind it. -/
def addChunk [Stemmers] (language : Language) (terms : QueryTerms) (chunk : List Char) : QueryTerms :=
  let chunk := Text.lower chunk
  let terms := { terms with objects := addNew terms.objects (String.ofList chunk) }
  match chunk with
  | '-' :: body => { terms with excluded := (stems language body).foldl addNew terms.excluded }
  | body => { terms with search := (stems language body).foldl addNew terms.search }

def parse [Stemmers] (language : Language) (query : String) : QueryTerms :=
  (Text.pieces Text.isBlank query.toList).foldl (addChunk language) empty

end QueryTerms
end DocSearch
