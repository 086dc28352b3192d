import DocSearch.Tree.Path

/- Changes to a file tree. -/
namespace DocSearch.FileTree

def lastPlace (tree : FileTree) (path : String) : Except FileFault (List String × String) := do
  let names := parts path
  match names.getLast? with
  | none => throw .notFound
  | some name =>
    let start := if isAbsolute path then [] else tree.working
    let directory ← walk tree.root maxLinks start names.dropLast
    if name = "" || name = "." || name = ".." then throw .notFound
    return (directory, name)

/-- Where a file of that path is written: at the place of the path, or, when only the last part is
missing, at that name in the directory before it. A link that leads nowhere is written through. -/
def writePlace (tree : FileTree) : (links : Nat) → (path : String) → Except FileFault (List String)
  | links, path =>
    match tree.resolve path with
    | .ok names =>
      match tree.root.child? names with
      | some (.directory _) => .error .isDirectory
      | _ => .ok names
    | .error .notFound =>
      match tree.lastPlace path with
      | .error fault => .error fault
      | .ok (directory, name) =>
        match tree.root.child? (directory ++ [name]), links with
        | some (.link target), links + 1 => tree.writePlace links (join (pathOf directory) target)
        | some (.link _), 0 => .error .tooManyLinks
        | _, _ => .ok (directory ++ [name])
    | .error fault => .error fault

def writeFile (tree : FileTree) (path : String) (data : FileData) : Except FileFault FileTree := do
  let names ← tree.writePlace maxLinks path
  return { tree with root := tree.root.put names (.file data) }

def makeDirectories (tree : FileTree) (path : String) : Except FileFault FileTree :=
  let start := if isAbsolute path then "/" else ""
  let step (state : FileTree × String) (part : String) : Except FileFault (FileTree × String) := do
    let (tree, before) := state
    let path := join before part
    if part = "" then return (tree, before)
    match tree.node path with
    | .ok (.directory _) => return (tree, path)
    | .ok _ => throw .notDirectory
    | .error .notFound =>
      let names ← tree.writePlace maxLinks path
      return ({ tree with root := tree.root.put names (.directory []) }, path)
    | .error fault => throw fault
  ((parts path).foldlM step (tree, start)).map Prod.fst

def parent (path : String) : String × String :=
  let names := parts path
  let front := names.dropLast
  ((if front = [""] then "/" else "/".intercalate front), names.getLast?.getD "")

def entryPlace (tree : FileTree) (path : String) : Except FileFault (List String) := do
  let (front, name) := parent path
  let directory ← if front.isEmpty then pure tree.working else tree.resolve front
  return directory ++ [name]

def remove (tree : FileTree) (path : String) : Except FileFault FileTree := do
  let names ← tree.entryPlace path
  match tree.root.child? names with
  | none => throw .notFound
  | some _ => return { tree with root := tree.root.erase names }

def makeLink (tree : FileTree) (path target : String) : Except FileFault FileTree := do
  let names ← tree.entryPlace path
  return { tree with root := tree.root.put names (.link target) }

end DocSearch.FileTree
