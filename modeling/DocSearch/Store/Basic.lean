import DocSearch.Config
import DocSearch.Store.Loaded
import DocSearch.Text.Basic

/- The indexes that a session keeps in memory. One is used as long as its file is unchanged; one of
them may be active, which is what a request means that names no index. -/
namespace DocSearch

/-- A bounded table that forgets the entry that was used least recently. -/
abbrev Recent (α : Type) := List (String × α)

namespace Recent

variable {α : Type}

def contains (entries : Recent α) (key : String) : Bool := (entries.lookup key).isSome

def forget (entries : Recent α) (key : String) : Recent α := entries.filter (·.1 ≠ key)

def promote (entries : Recent α) (key : String) : Recent α :=
  match entries.lookup key with
  | some a => (key, a) :: forget entries key
  | none => entries

def put (capacity : Nat) (entries : Recent α) (key : String) (a : α) : Recent α :=
  ((key, a) :: forget entries key).take capacity

end Recent

structure Store where
  capacity : Nat
  /-- By the plainest spelling of the path. -/
  cached : Recent Loaded
  active : Option String
  /-- The number of the next load. -/
  nextSerial : Nat

def resolveIndex (home : String) (tree : FileTree) (path : String) : Except LoadError String :=
  let path := expandTilde home path
  match tree.locate? path with
  | none => .error (.notFound path)
  | some file =>
    match tree.canonical file with
    | .error fault => .error (.unresolved file fault)
    | .ok path => .ok path

namespace Store

def empty (capacity : Nat) : Store := ⟨capacity, [], none, 0⟩

def defaultCapacity : Nat := 16

def isCached (store : Store) (path : String) : Bool := store.cached.contains (FileTree.plain path)

def setActive (store : Store) (path : String) : Store := { store with active := some path }

def clear (store : Store) : Store := { store with cached := [] }

def reload (store : Store) (tree : FileTree) (path : String) : Except LoadError Loaded × Store :=
  let cached := store.cached.forget (FileTree.plain path)
  match Loaded.read store.nextSerial tree path with
  | .error e => (.error e, { store with cached })
  | .ok loaded =>
    (.ok loaded,
      { store with
        cached := store.cached.put store.capacity (FileTree.plain path) loaded
        nextSerial := store.nextSerial + 1 })

def fetch (store : Store) (tree : FileTree) (path : String) : Except LoadError Loaded × Store :=
  match store.cached.lookup (FileTree.plain path) with
  | none => store.reload tree path
  | some loaded =>
    if loaded.isFresh tree then
      (.ok loaded, { store with cached := store.cached.promote (FileTree.plain path) })
    else store.reload tree path

def load (store : Store) (home : String) (tree : FileTree) (path : String) :
    Except LoadError Loaded × Store :=
  match resolveIndex home tree path with
  | .error e => (.error e, store)
  | .ok path => store.fetch tree path

def activate (store : Store) (home : String) (tree : FileTree) (path : String) :
    Except LoadError Loaded × Store :=
  match store.load home tree path with
  | (.error e, store) => (.error e, store)
  | (.ok loaded, store) => (.ok loaded, store.setActive loaded.path)

/-- The index that a request means: that of its path, unless it has none or a blank one, else the
active one. -/
def get (store : Store) (home : String) (tree : FileTree) (path : Option String) :
    Except LoadError Loaded × Store :=
  match path.filter (!Text.isAllBlank ·) with
  | some path => store.load home tree path
  | none =>
    match store.active with
    | none => (.error .noneActive, store)
    | some path => store.fetch tree path

end Store
end DocSearch
