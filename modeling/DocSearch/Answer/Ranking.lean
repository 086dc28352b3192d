import DocSearch.Search.Engine
import DocSearch.Search.Suggest

/- What a reader is told about a search: ranked results with relevance and link, or what to try
instead. -/
namespace DocSearch.Answer

def pageSuffix : String := ".html"

def lines (texts : List String) : String := String.join (texts.map (· ++ "\n"))

/-- A score in percent of the best one, which counts as at least one. -/
def relevance (best score : Int64) : Int64 := min (max score 0 * 100 / best) 100

def bestScore (results : List SearchResult) : Int64 :=
  results.foldl (fun best result => max best result.score) 1

def resultKindName : ResultKind → String
  | .object => "object"
  | .page => "page"

def resultLink (result : SearchResult) : String :=
  let page := result.docname ++ pageSuffix
  match result.anchor with
  | some anchor => if anchor.isEmpty then page else page ++ "#" ++ anchor
  | none => page

def resultText (best : Int64) (number : Nat) (result : SearchResult) : String :=
  let relevance := relevance best result.score
  lines ([s!"{number}. `{result.title}` ({resultKindName result.kind}) - relevance: {relevance}%",
    "   " ++ resultLink result] ++
    (result.description.map ("   " ++ ·)).toList ++ [""])

def resultsText (query : String) (results : List SearchResult) : String :=
  let best := bestScore results
  s!"Search results for '{query}':\n\n" ++
    String.join (results.zipIdx.map fun (result, i) => resultText best (i + 1) result)

def indexedTerms (index : SearchIndex) : List String :=
  index.terms.keys ++ (index.titleterms.map KeyMap.keys).getD []

def termSuggestions [Stemmers] (index : SearchIndex) (language : Language) (query : String) :
    List String :=
  (QueryTerms.parse language query).search.foldl (fun found word =>
    ((suggest word (indexedTerms index) 3).map (·.text)).foldl (fun found text =>
      if text = word then found else QueryTerms.addNew found text) found) []

def searchTips : List String :=
  ["Search tips:",
   "• Every word must appear on a page; try fewer words",
   "• Search uses stemming: 'tables' matches 'table'",
   "• Words starting with '-' exclude pages",
   "• Object names (directives, modules, settings) match by substring"]

def noResultsText [Stemmers] (index : SearchIndex) (language : Language) (query : String) : String :=
  let found := termSuggestions index language query
  s!"No results found for '{query}'.\n\n" ++
    (if found.isEmpty then ""
      else "Did you mean one of these indexed terms? " ++ Text.joined ", " found ++ "\n\n") ++
    lines searchTips

def search [Stemmers] (index : SearchIndex) (scorer : Scorer) (language : Language) (query : String)
    (limit : Nat) : String :=
  let results := index.search scorer language query limit
  if results.isEmpty then noResultsText index language query else resultsText query results

end DocSearch.Answer
