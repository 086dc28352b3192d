import DocSearch.Index.Report
import DocSearch.Tree.Locate

/- An index as it was loaded from its file, and whether it still is what the file holds. -/
namespace DocSearch

structure Loaded where
  /-- Two loads never have the same number, even of one file. -/
  serial : Nat
  path : String
  dialect : Dialect
  index : SearchIndex
  report : Report
  /-- The file when it was read. -/
  file : FileData

inductive LoadError
  /-- There is no index file at the path or below it. -/
  | notFound (path : String)
  | unresolved (path : String) (fault : FileFault)
  | unreadable (path : String) (fault : FileFault)
  | content (e : ReadError)
  /-- No path is given and no index is active. -/
  | noneActive

namespace LoadError

def causes : LoadError → List String
  | .notFound path => [FileTree.notFoundMessage path]
  | .unresolved path fault => [s!"Failed to resolve {path}: {fault.message}"]
  | .unreadable path fault => [s!"failed to read {path}: {fault.message}", fault.message]
  | .content e => [e.message]
  | .noneActive =>
    ["No index loaded. Use load_index with a path to a searchindex.js file or a documentation build directory."]

def message (e : LoadError) : String := Text.joined ": " e.causes

end LoadError

def SearchIndex.ofFile (path : String) (data : FileData) :
    Except LoadError (SearchIndex × Dialect) :=
  match FileTree.textOf data with
  | .error fault => .error (.unreadable path fault)
  | .ok source =>
    match SearchIndex.parse source with
    | .error e => .error (.content e)
    | .ok result => .ok result

namespace Loaded

def read (serial : Nat) (tree : FileTree) (path : String) : Except LoadError Loaded :=
  match tree.file path with
  | .error fault => .error (.unreadable path fault)
  | .ok file =>
    match SearchIndex.ofFile path file with
    | .error e => .error e
    | .ok (index, dialect) =>
      .ok { serial, path, dialect, index, report := index.validate, file }

/-- Size and time of change tell that a file is as it was; where they differ, the bytes do. -/
def sameFile (before now : FileData) : Bool :=
  (now.bytes.size == before.bytes.size && now.modified == before.modified) ||
    now.bytes.data = before.bytes.data

def isFresh (tree : FileTree) (loaded : Loaded) : Bool :=
  match tree.file loaded.path with
  | .error _ => false
  | .ok now => sameFile loaded.file now

end Loaded
end DocSearch
