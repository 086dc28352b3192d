import DocSearch.Answer.Lookup
import DocSearch.Answer.Overview
import DocSearch.Service.Request
import DocSearch.Store.Basic

/- A server: it keeps a store of its own, sized by its settings, and answers calls of its tools. A request
may load an index, so the store goes in and comes out. -/
namespace DocSearch

namespace Store

def answerFrom (store : Store) (home : String) (tree : FileTree) (path : Option String)
    (answer : Loaded → Except String String) : Except String String × Store :=
  match store.get home tree path with
  | (.error e, store) => (.error e.message, store)
  | (.ok loaded, store) => (answer loaded, store)

def reply [Stemmers] (store : Store) (config : Config) (home : String) (tree : FileTree) :
    Request → Except String String × Store
  | .inspectIndex path => store.answerFrom home tree path fun loaded => .ok (Answer.inspect loaded)
  | .loadIndex path =>
    match store.activate home tree path with
    | (.error e, after) => (.error ("Failed to load index: " ++ e.message), after)
    | (.ok loaded, after) => (.ok (Answer.loadedText loaded store.active), after)
  | .lookupTerm term titlesOnly path =>
    store.answerFrom home tree path fun loaded =>
      .ok (Answer.lookupTerm loaded.index config.language term (titlesOnly.getD false))
  | .resolveObject name context path =>
    store.answerFrom home tree path fun loaded => Answer.resolveObject loaded.index name context
  | .search query limit path =>
    store.answerFrom home tree path fun loaded =>
      .ok (Answer.search loaded.index config.scorer config.language query
        (limit.getD config.defaultLimit))

end Store

structure Server where
  config : Config
  store : Store

/-- What a call of a tool comes to. A failure to answer is told to the caller as text, and so is a
fault of the arguments. -/
inductive CallResult
  | answered (text : String)
  | failed (text : String)
  | unknownTool
  /-- What stands in the place of the arguments is no object, so nothing is called at all. -/
  | noCall
deriving DecidableEq, Repr

namespace Server

def protocolVersion : String := "2024-11-05"

def instructions : String :=
  "searchindex-mcp: query generated documentation sites through their search index. Start with load_index pointing at a searchindex.js file or an HTML build directory, then use search, lookup_term, resolve_object and inspect_index."

def start (config : Config) (home : String) (tree : FileTree) : Server :=
  let store := Store.empty (if config.cacheSize = 0 then Store.defaultCapacity else config.cacheSize)
  match config.defaultIndex with
  | none => { config, store }
  | some path => { config, store := (store.activate home tree path).2 }

def arguments? : Option Value → Option (List (String × Value))
  | none | some .null => some []
  | some (.object members) => some members
  | some _ => none

def call [Stemmers] (server : Server) (home : String) (tree : FileTree) (name : String)
    (arguments : Option Value) : CallResult × Server :=
  match arguments? arguments, Tool.ofName? name with
  | none, _ => (.noCall, server)
  | some _, none => (.unknownTool, server)
  | some arguments, some tool =>
    match Request.ofMembers tool arguments with
    | .error fault => (.failed ("failed to deserialize parameters: " ++ fault.message), server)
    | .ok request =>
      match server.store.reply server.config home tree request with
      | (.ok text, store) => (.answered text, { server with store })
      | (.error text, store) => (.failed text, { server with store })

end Server
end DocSearch
