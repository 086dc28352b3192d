import DocSearch.Literal.Basic

/- The tools that the service offers, each with the fields of its requests. -/
namespace DocSearch

inductive FieldKind
  | text
  | count
  | flag
deriving DecidableEq, Repr

structure Field where
  name : String
  kind : FieldKind
  required : Bool
  description : String

inductive Tool
  | inspectIndex
  | loadIndex
  | lookupTerm
  | resolveObject
  | search
deriving DecidableEq, Repr

namespace Tool

def all : List Tool := [.inspectIndex, .loadIndex, .lookupTerm, .resolveObject, .search]

def name : Tool → String
  | .inspectIndex => "inspect_index"
  | .loadIndex => "load_index"
  | .lookupTerm => "lookup_term"
  | .resolveObject => "resolve_object"
  | .search => "search"

def ofName? (name : String) : Option Tool := all.find? (·.name == name)

def description : Tool → String
  | .inspectIndex => "Summarize an index: counts, object types, pages and validation findings."
  | .loadIndex =>
    "Load a documentation search index (searchindex.js, or a documentation build directory containing one) and make it the default for other tools. Reports document, term and object counts plus any integrity problems."
  | .lookupTerm =>
    "Show which pages contain a term, with per-page weights and anchors where the index records them. The term is tried as written, then stemmed."
  | .resolveObject =>
    "Resolve a documented object by full name to its page and link anchor. Accepts configuration references like 'flow.cylc[scheduling]graph', optionally relative to a context namespace."
  | .search =>
    "Search a documentation site's index the way its own search page does: object names (directives, modules, configuration settings) and stemmed page terms, ranked by relevance. Prefix a word with '-' to exclude pages."

def pathField (description : String) : Field := ⟨"path", .text, false, description⟩

/-- The fields in the order of a positional request. -/
def fields : Tool → List Field
  | .inspectIndex => [pathField "Index to inspect (defaults to the loaded index)"]
  | .loadIndex =>
    [⟨"path", .text, true,
      "Path to a searchindex.js file, or a documentation build directory containing one"⟩]
  | .lookupTerm =>
    [⟨"term", .text, true, "Word to look up; tried as written, then lowercased and stemmed"⟩,
     ⟨"titles_only", .flag, false, "Only report title matches"⟩,
     pathField "Index to query (defaults to the loaded index)"]
  | .resolveObject =>
    [⟨"name", .text, true,
      "Full object name, e.g. 'cylc.sphinx_ext.minicylc', 'spoiler', or a\nconfiguration reference such as 'flow.cylc[scheduling]graph'"⟩,
     ⟨"context", .text, false,
      "Enclosing configuration namespace for relative references, e.g. 'flow.cylc[runtime]'"⟩,
     pathField "Index to query (defaults to the loaded index)"]
  | .search =>
    [⟨"query", .text, true,
      "Search query; prefix a word with \x60-\x60 to exclude pages containing it"⟩,
     ⟨"limit", .count, false,
      "Maximum number of results to return (default from configuration, usually 10)"⟩,
     pathField "Index to search (defaults to the loaded index)"]

def requestTitle : Tool → String
  | .inspectIndex => "InspectIndexRequest"
  | .loadIndex => "LoadIndexRequest"
  | .lookupTerm => "LookupTermRequest"
  | .resolveObject => "ResolveObjectRequest"
  | .search => "SearchRequest"

end Tool

def Value.ofMembers (members : List (String × Value)) : Value :=
  .object (KeyMap.ofList members).entries

namespace Field

def typeName : FieldKind → String
  | .text => "string"
  | .count => "integer"
  | .flag => "boolean"

def schema (field : Field) : Value :=
  .ofMembers ([("description", .string field.description), ("type", .string (typeName field.kind))] ++
    (if field.kind = .count then [("format", .string "uint"), ("minimum", .ofUInt64 0)] else []) ++
    (if field.required then [] else [("default", .null), ("nullable", .bool true)]))

end Field

namespace Tool

def schema (tool : Tool) : Value :=
  let required := tool.fields.filter (·.required)
  .ofMembers ([("$schema", .string "http://json-schema.org/draft-07/schema#"),
    ("title", .string tool.requestTitle), ("type", .string "object"),
    ("properties", .ofMembers (tool.fields.map fun field => (field.name, field.schema)))] ++
    (if required.isEmpty then [] else [("required", .ofStrings (required.map (·.name)))]))

end Tool
end DocSearch
