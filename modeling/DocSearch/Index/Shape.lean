/- Where a value in an index file lacks its shape, and which shape was expected there. -/
namespace DocSearch

inductive Step
  | member (key : String)
  | item (i : Nat)
deriving DecidableEq, Repr

structure Path where
  field : String
  steps : List Step
deriving DecidableEq, Repr

namespace Path

def ofField (field : String) : Path := ⟨field, []⟩

def root : Path := ofField "<root>"

def member (path : Path) (key : String) : Path := { path with steps := path.steps ++ [.member key] }

def item (path : Path) (i : Nat) : Path := { path with steps := path.steps ++ [.item i] }

def text (path : Path) : String :=
  path.steps.foldl (fun text step =>
    match step with
    | .member key => text ++ "." ++ key
    | .item i => text ++ s!"[{i}]") path.field

end Path

inductive Shape
  | object
  | presentField
  | stringList
  | string
  | docNumber
  | termObject
  | postings
  | postingRecord
  | weight
  | flags
  | scopeObject
  | recordList
  | listedRecord
  | nameObject
  | namedRecord
  | priority
  | typeObject
  | objectName
  | integer
  | integerOrObject
deriving DecidableEq, Repr

def Shape.text : Shape → String
  | .object => "an object"
  | .presentField => "a required field"
  | .stringList => "a list of strings"
  | .string => "a string"
  | .docNumber => "a non-negative integer"
  | .termObject => "an object keyed by term"
  | .postings => "a document index or a list of postings"
  | .postingRecord => "a posting record [doc, weight?, flags?, anchor?]"
  | .weight => "an integer weight"
  | .flags => "integer flags"
  | .scopeObject => "an object keyed by prefix"
  | .recordList => "a list of object records"
  | .listedRecord => "[doc, objtype, prio, anchor, name]"
  | .nameObject => "an object keyed by name"
  | .namedRecord => "[doc, objtype, prio, anchor]"
  | .priority => "an integer priority"
  | .typeObject => "an object keyed by type index"
  | .objectName => "[domain, role, label]"
  | .integer => "an integer"
  | .integerOrObject => "an integer or an object of integers"

structure ShapeError where
  path : Path
  expected : Shape
deriving DecidableEq, Repr

def ShapeError.message (e : ShapeError) : String :=
  "invalid `" ++ e.path.text ++ "`: expected " ++ e.expected.text

end DocSearch
