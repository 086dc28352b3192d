import DocSearch.Text.Basic

/- File trees, directories with files and symbolic links, as a process sees them from its working
directory, and paths as text. -/
namespace DocSearch

structure FileData where
  bytes : ByteArray
  modified : Int

/-- The names in a directory come in no particular order. -/
inductive Node
  | file (data : FileData)
  | directory (entries : List (String × Node))
  | link (target : String)

inductive FileFault
  | notFound
  | notDirectory
  | isDirectory
  | tooManyLinks
  | nameTooLong
  /-- The path holds a character that no file name can have. -/
  | nulInPath
  | notText
deriving DecidableEq, Repr

def FileFault.message : FileFault → String
  | .notFound => "No such file or directory (os error 2)"
  | .notDirectory => "Not a directory (os error 20)"
  | .isDirectory => "Is a directory (os error 21)"
  | .tooManyLinks => "Too many levels of symbolic links (os error 40)"
  | .nameTooLong => "File name too long (os error 36)"
  | .nulInPath => "file name contained an unexpected NUL byte"
  | .notText => "stream did not contain valid UTF-8"

namespace Node

def child? : (names : List String) → Node → Option Node
  | [], node => some node
  | name :: names, .directory entries => (entries.lookup name).bind (child? names)
  | _ :: _, _ => none

/-- Puts a node at a list of names, making the directories on the way. A file or link on the way
gives way to a directory. -/
def put : (names : List String) → (node new : Node) → Node
  | [], _, new => new
  | name :: names, node, new =>
    let entries := match node with
      | .directory entries => entries
      | _ => []
    let inner := put names ((entries.lookup name).getD (.directory [])) new
    .directory ((name, inner) :: entries.filter (·.1 ≠ name))

def erase : (names : List String) → Node → Node
  | [name], .directory entries => .directory (entries.filter (·.1 ≠ name))
  | name :: names, .directory entries =>
    .directory (entries.map fun (n, node) => if n = name then (n, erase names node) else (n, node))
  | _, node => node

end Node

structure FileTree where
  root : Node
  working : List String

namespace FileTree

/-- The parts between slashes. An empty part, like a dot, stays where it is. -/
def parts (path : String) : List String := (Text.split (· == '/') path.toList).map String.ofList

def isAbsolute (path : String) : Bool := path.toList.head? = some '/'

/-- The plainest spelling of a path: without slashes that are repeated or at the end and without
dots, except one that a relative path begins with. Spellings of one path have the same. -/
def plain (path : String) : String :=
  let names := parts path
  let plainNames := names.filter fun name => name ≠ "" && name ≠ "."
  (if isAbsolute path then "/" else if names.head? = some "." then "./" else "") ++
    "/".intercalate plainNames

def maxNameSize : Nat := 255

def maxPathSize : Nat := 4095

def maxLinks : Nat := 40

/-- Goes on from `here` part by part. At a link `follow` takes over: from the place where the link's
target starts, with the target's parts in front of those that are left. -/
def walkParts (root : Node) (follow : (here parts : List String) → Except FileFault (List String))
    (here : List String) : List String → Except FileFault (List String)
  | [] => .ok here
  | part :: rest =>
    match root.child? here with
    | some (.directory entries) =>
      if part = "" || part = "." then walkParts root follow here rest
      else if part = ".." then walkParts root follow here.dropLast rest
      else if maxNameSize < part.utf8ByteSize then .error .nameTooLong
      else match entries.lookup part with
        | none => .error .notFound
        | some (.link target) => follow (if isAbsolute target then [] else here) (parts target ++ rest)
        | some _ => walkParts root follow (here ++ [part]) rest
    | _ => .error .notDirectory

def walk (root : Node) : (links : Nat) → (here parts : List String) → Except FileFault (List String)
  | 0 => walkParts root fun _ _ => .error .tooManyLinks
  | links + 1 => walkParts root (walk root links)

def resolve (tree : FileTree) (path : String) : Except FileFault (List String) :=
  if path.contains '\x00' then .error .nulInPath
  else if path.isEmpty then .error .notFound
  else if maxPathSize < path.utf8ByteSize then .error .nameTooLong
  else walk tree.root maxLinks (if isAbsolute path then [] else tree.working) (parts path)

def node (tree : FileTree) (path : String) : Except FileFault Node := do
  let names ← tree.resolve path
  match tree.root.child? names with
  | some node => return node
  | none => throw .notFound

def pathOf (names : List String) : String := "/" ++ "/".intercalate names

/-- The one path of what stands there that goes through no link. -/
def canonical (tree : FileTree) (path : String) : Except FileFault String :=
  (tree.resolve path).map pathOf

def file (tree : FileTree) (path : String) : Except FileFault FileData := do
  match ← tree.node path with
  | .file data => return data
  | _ => throw .isDirectory

def textOf (data : FileData) : Except FileFault String :=
  match String.fromUTF8? data.bytes with
  | some text => .ok text
  | none => .error .notText

def text (tree : FileTree) (path : String) : Except FileFault String := do
  textOf (← tree.file path)

def isFile (tree : FileTree) (path : String) : Bool := (tree.file path).isOk

def join (path : String) (name : String) : String :=
  if isAbsolute name then name
  else if path.isEmpty || path.toList.getLast? = some '/' then path ++ name
  else path ++ "/" ++ name

end FileTree

end DocSearch
