import DocSearch.Tree.Path

/- Finding the index file of a site: the path may name it or a directory above it. -/
namespace DocSearch

def indexFileName : String := "searchindex.js"

def isHidden (name : String) : Bool := name.toList.head? = some '.'

namespace Node

mutual

/-- The index files below a node, each as the names that lead to it. Links are not followed and
hidden names not entered. -/
def indexFiles : Node → List (List String)
  | .directory entries => indexFilesIn entries
  | _ => []

def indexFilesIn : List (String × Node) → List (List String)
  | [] => []
  | (name, node) :: rest =>
    let here := match node with
      | .file _ => if name = indexFileName then [[name]] else []
      | .link _ => []
      | .directory _ => if isHidden name then [] else (indexFiles node).map (name :: ·)
    here ++ indexFilesIn rest

end

end Node

def shallowerBefore (a b : List String) : Bool :=
  a.length < b.length || (a.length == b.length && !decide (b < a))

def shallowest? (places : List (List String)) : Option (List String) :=
  places.foldl (fun best place =>
    match best with
    | none => some place
    | some best => some (if shallowerBefore best place then best else place)) none

namespace FileTree

/-- A file as it is named, or the shallowest index file below a directory; none if there is none. -/
def locate? (tree : FileTree) (path : String) : Option String :=
  match tree.node path with
  | .ok (.file _) => some path
  | .ok node => (shallowest? node.indexFiles).map (·.foldl join path)
  | .error _ => none

def notFoundMessage (path : String) : String := s!"no {indexFileName} found at {path}"

end FileTree
end DocSearch
